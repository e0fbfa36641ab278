import Countinghouse.Proofs.Json.Reader
import Countinghouse.Proofs.Text.LowerCase
import Mathlib.Data.List.Induction
import Mathlib.Data.List.TakeWhile

/-!
What the reader accepts. Whatever it takes from the front of a text spells what it makes of it, so a
text is read as a value exactly if it spells that value.
-/
namespace Countinghouse

namespace Text

lemma exists_ofNat_add {a b c : Char} (low : a ≤ c) (high : c ≤ b) :
    ∃ k, k ≤ b.toNat - a.toNat ∧ c.toNat - a.toNat = k ∧ c = Char.ofNat (a.toNat + k) := by
  have low : a.toNat ≤ c.toNat := low
  have high : c.toNat ≤ b.toNat := high
  refine ⟨c.toNat - a.toNat, by omega, rfl, ?_⟩
  rw [Nat.add_sub_cancel' low, Char.ofNat_toNat]

lemma hexDigit_of_hexValue? {c : Char} {d : Nat} (value : hexValue? c = some d) :
    hexDigit d = c.toLower := by
  rw [hexValue?] at value
  split at value
  · rename_i digit
    simp only [Char.isDigit, Bool.and_eq_true, decide_eq_true_eq] at digit
    obtain ⟨k, bound, rest, shape⟩ := exists_ofNat_add (a := '0') (b := '9') digit.1 digit.2
    have all : ∀ k ≤ 9, hexDigit k = (Char.ofNat ('0'.toNat + k)).toLower := by decide
    cases value
    rw [rest, shape]
    exact all k bound
  · split at value
    · rename_i small
      obtain ⟨k, bound, rest, shape⟩ := exists_ofNat_add small.1 small.2
      have all : ∀ k ≤ 5, hexDigit (k + 10) = (Char.ofNat ('a'.toNat + k)).toLower := by decide
      cases value
      rw [rest, shape]
      exact all k bound
    · split at value
      · rename_i capital
        obtain ⟨k, bound, rest, shape⟩ := exists_ofNat_add capital.1 capital.2
        have all : ∀ k ≤ 5, hexDigit (k + 10) = (Char.ofNat ('A'.toNat + k)).toLower := by decide
        cases value
        rw [rest, shape]
        exact all k bound
      · cases value

/-- Digits that are read as a number write it, but for the case of their letters. -/
lemma hexPadded_of_hexNumber? {cs : List Char} {n : Nat} (value : hexNumber? cs = some n) :
    n < 16 ^ cs.length ∧ cs.map Char.toLower = hexPadded cs.length n := by
  -- the last digit is the remainder, so the digits are taken off from behind
  induction cs using List.reverseRecOn generalizing n with
  | nil =>
    cases value
    exact ⟨by decide, rfl⟩
  | append_singleton cs c ih =>
    rw [hexNumber?, hexFrom?_append] at value
    obtain ⟨m, front, last⟩ := Option.bind_eq_some_iff.1 value
    obtain ⟨small, digits⟩ := ih front
    rw [hexFrom?] at last
    cases found : hexValue? c with
    | none =>
      rw [found] at last
      cases last
    | some d =>
      rw [found] at last
      cases last
      have digit := hexValue?_lt found
      rw [List.length_append, List.length_singleton, hexPadded, List.map_append, digits]
      have high : (16 * m + d) / 16 = m := by omega
      have low : (16 * m + d) % 16 = d := by omega
      refine ⟨?_, ?_⟩
      · rw [pow_succ]
        omega
      · rw [high, low, hexDigit_of_hexValue? found]
        rfl

end Text

namespace Json

inductive SpellsPiece : Piece → List Char → Prop
  | char {c : Char} {cs : List Char} (spelled : SpellsChar c cs) : SpellsPiece (.char c) cs
  | unit {n : Nat} {cs : List Char} (spelled : SpellsUnit n cs) : SpellsPiece (.unit n) cs

inductive SpellsPieces : List Piece → List Char → Prop
  | nil : SpellsPieces [] []
  | cons {p : Piece} {ps : List Piece} {front rest : List Char} (first : SpellsPiece p front)
      (later : SpellsPieces ps rest) : SpellsPieces (p :: ps) (front ++ rest)

lemma mem_shortEscapes {e c : Char} (short : unescape? e = some c) : (e, c) ∈ shortEscapes := by
  rw [unescape?.eq_def] at short
  split at short
  all_goals
    cases short
    try decide

lemma spells_of_pieces {cs rest : List Char} {ps : List Piece}
    (read : pieces cs = some (ps, rest)) :
    ∃ body, cs = body ++ '"' :: rest ∧ SpellsPieces ps body := by
  fun_induction pieces cs generalizing ps rest with
  | case1 => cases read
  | case2 =>
    cases read
    exact ⟨[], rfl, .nil⟩
  | case3 a b c d tail n qs after inner value ih =>
    cases read
    obtain ⟨body, rfl, spelled⟩ := ih inner
    obtain ⟨small, digits⟩ := Text.hexPadded_of_hexNumber? value
    have unit : SpellsUnit n ['\\', 'u', a, b, c, d] := .hex (by simpa using small) digits
    exact ⟨_, rfl, .cons (.unit unit) spelled⟩
  | case4 => cases read
  | case5 e tail _ c qs after inner short ih =>
    cases read
    obtain ⟨body, rfl, spelled⟩ := ih inner
    exact ⟨_, rfl, .cons (.char (.short (mem_shortEscapes short))) spelled⟩
  | case6 => cases read
  | case7 => cases read
  | case8 c tail noQuote _ _ plain qs after inner ih =>
    cases read
    obtain ⟨body, rfl, spelled⟩ := ih inner
    obtain ⟨visible, noBackslash⟩ := not_or.1 plain
    exact ⟨_, rfl, .cons (.char (.plain (Nat.not_lt.1 visible) noQuote noBackslash)) spelled⟩
  | case9 => cases read

lemma spells_pair {n m : Nat} {high low : List Char} (leading : isLeading n = true)
    (trailing : isTrailing m = true) (first : SpellsUnit n high) (second : SpellsUnit m low) :
    SpellsChar (Char.ofNat (0x10000 + (n - 0xD800) * 0x400 + (m - 0xDC00))) (high ++ low) := by
  simp only [isLeading, Bool.and_eq_true, decide_eq_true_eq] at leading
  simp only [isTrailing, Bool.and_eq_true, decide_eq_true_eq] at trailing
  have valid : (0x10000 + (n - 0xD800) * 0x400 + (m - 0xDC00)).isValidChar := .inr (by omega)
  have code := Text.toNat_ofNat valid
  have half : 0xD800 + ((Char.ofNat (0x10000 + (n - 0xD800) * 0x400 + (m - 0xDC00))).toNat -
      0x10000) / 0x400 = n := by
    rw [code]
    omega
  have other : 0xDC00 + ((Char.ofNat (0x10000 + (n - 0xD800) * 0x400 + (m - 0xDC00))).toNat -
      0x10000) % 0x400 = m := by
    rw [code]
    omega
  refine .pair ?_ (by rwa [half]) (by rwa [other])
  rw [code]
  omega

lemma spells_single {n : Nat} {cs : List Char} (notLeading : ¬ isLeading n = true)
    (notTrailing : ¬ isTrailing n = true) (unit : SpellsUnit n cs) :
    SpellsChar (Char.ofNat n) cs := by
  have valid : n.isValidChar := by
    simp only [isLeading, Bool.and_eq_true, decide_eq_true_eq] at notLeading
    simp only [isTrailing, Bool.and_eq_true, decide_eq_true_eq] at notTrailing
    cases unit with
    | hex small digits =>
      rcases Nat.lt_or_ge n 0xD800 with low | high
      · exact .inl low
      · exact .inr (by omega)
  refine .unit ?_
  rwa [Text.toNat_ofNat valid]

lemma spells_of_characters {ps : List Piece} {s cs : List Char} (spelled : SpellsPieces ps cs)
    (read : characters ps = some s) : SpellsChars s cs := by
  fun_induction characters ps generalizing s cs with
  | case1 =>
    cases read
    cases spelled
    exact .nil
  | case2 c ps ih =>
    obtain ⟨t, inner, rfl⟩ := Option.map_eq_some_iff.1 read
    obtain _ | ⟨first | _, later⟩ := spelled
    exact .cons first (ih later inner)
  | case3 n m ps leading trailing ih =>
    obtain ⟨t, inner, rfl⟩ := Option.map_eq_some_iff.1 read
    obtain _ | ⟨_ | first, _ | ⟨_ | second, later⟩⟩ := spelled
    rw [← List.append_assoc]
    exact .cons (spells_pair leading trailing first second) (ih later inner)
  | case4 => cases read
  | case5 => cases read
  | case6 n m ps notLeading notTrailing ih =>
    obtain ⟨t, inner, rfl⟩ := Option.map_eq_some_iff.1 read
    obtain _ | ⟨_ | first, later⟩ := spelled
    exact .cons (spells_single notLeading notTrailing first) (ih later inner)
  | case7 => cases read
  | case8 n ps _ single ih =>
    obtain ⟨t, inner, rfl⟩ := Option.map_eq_some_iff.1 read
    obtain _ | ⟨_ | first, later⟩ := spelled
    obtain ⟨notLeading, notTrailing⟩ := not_or.1 (mt Bool.or_eq_true_iff.2 single)
    exact .cons (spells_single notLeading notTrailing first) (ih later inner)

/-- What is taken from behind an opening quote spells the string that it is read as. -/
lemma spells_of_unquote {cs s rest : List Char} (read : unquote cs = some (s, rest)) :
    ∃ body, '"' :: cs = body ++ rest ∧ SpellsText (String.ofList s) body := by
  rw [unquote] at read
  split at read
  · rename_i ps after found
    obtain ⟨t, means, same⟩ := Option.map_eq_some_iff.1 read
    cases same
    obtain ⟨body, rfl, spelled⟩ := spells_of_pieces found
    refine ⟨'"' :: (body ++ ['"']), by simp, .quoted ?_⟩
    rw [String.toList_ofList]
    exact spells_of_characters spelled means
  · cases read

namespace Number

lemma digits_of_spanDigits {cs ds rest : List Char} (read : Decimal.spanDigits cs = (ds, rest)) :
    cs = ds ++ rest ∧ ∀ d ∈ ds, d.isDigit = true := by
  have whole := Decimal.spanDigits_append cs
  rw [read] at whole
  refine ⟨whole.symm, fun d member => ?_⟩
  have taken : ds = cs.takeWhile Char.isDigit := (congrArg Prod.fst read).symm
  rw [taken] at member
  exact List.mem_takeWhile_imp member

lemma digits_of_scanWhole {cs ds rest : List Char} (read : scanWhole cs = some (ds, rest)) :
    cs = ds ++ rest ∧ AreDigits ds ∧ (ds = ['0'] ∨ ds.head? ≠ some '0') := by
  rw [scanWhole.eq_def] at read
  split at read
  · cases read
  · cases read
  · rename_i ds' rest' some' noZeros same
    cases read
    obtain ⟨whole, digits⟩ := digits_of_spanDigits same
    refine ⟨whole, ⟨some', digits⟩, ?_⟩
    cases ds with
    | nil => exact absurd rfl some'
    | cons d ds =>
      cases ds with
      | nil =>
        by_cases zero : d = '0'
        · exact .inl (by rw [zero])
        · exact .inr fun first => zero (Option.some.inj first)
      | cons d' ds =>
        right
        intro first
        cases first
        exact noZeros d' ds rfl

lemma digits_of_scanFraction {cs ds rest : List Char} (read : scanFraction cs = some (ds, rest)) :
    cs = (if ds.isEmpty then [] else '.' :: ds) ++ rest ∧ ∀ d ∈ ds, d.isDigit = true := by
  rw [scanFraction.eq_def] at read
  split at read
  · split at read
    · cases read
    · rename_i some' same
      cases read
      obtain ⟨rfl, digits⟩ := digits_of_spanDigits same
      rw [if_neg (by simpa using some')]
      exact ⟨rfl, digits⟩
  · cases read
    exact ⟨rfl, by simp⟩

lemma exists_sign_of_scanSign (cs : List Char) :
    ∃ sign, SpellsSign (scanSign cs).1 sign ∧ cs = sign ++ (scanSign cs).2 := by
  rw [scanSign.eq_def]
  split
  · exact ⟨_, .minus, rfl⟩
  · exact ⟨_, .plus, rfl⟩
  · exact ⟨_, .absent, rfl⟩

/-- What is taken behind the mark of an exponent makes one together with the mark. -/
lemma spells_of_scanPower {mark : Char} {cs rest : List Char} {e : Int}
    (letter : mark = 'e' ∨ mark = 'E') (read : scanPower cs = some (e, rest)) :
    ∃ tail, mark :: cs = tail ++ rest ∧ SpellsExponent (some e) tail := by
  rw [scanPower.eq_def] at read
  split at read
  · cases read
  · rename_i some' same
    cases read
    obtain ⟨sign, signed, shape⟩ := exists_sign_of_scanSign cs
    obtain ⟨whole, digits⟩ := digits_of_spanDigits same
    refine ⟨_, ?_, .present letter signed ⟨some', digits⟩⟩
    rw [List.cons_append, List.append_assoc, ← whole, ← shape]

lemma spells_of_scanExponent {cs rest : List Char} {e : Option Int}
    (read : scanExponent cs = some (e, rest)) :
    ∃ tail, cs = tail ++ rest ∧ SpellsExponent e tail := by
  rw [scanExponent.eq_def] at read
  split at read
  · obtain ⟨⟨power, after⟩, found, same⟩ := Option.map_eq_some_iff.1 read
    cases same
    exact spells_of_scanPower (.inl rfl) found
  · obtain ⟨⟨power, after⟩, found, same⟩ := Option.map_eq_some_iff.1 read
    cases same
    exact spells_of_scanPower (.inr rfl) found
  · cases read
    exact ⟨[], rfl, .absent⟩

lemma spells_of_scanUnsigned {negative : Bool} {n : Number} {cs rest : List Char}
    (read : scanUnsigned negative cs = some (n, rest)) :
    ∃ body, (if negative then ['-'] else []) ++ cs = body ++ rest ∧ SpellsNumber n body := by
  simp only [scanUnsigned, Option.bind_eq_bind, Option.bind_eq_some_iff, Prod.exists,
    Option.some.injEq, Prod.mk.injEq] at read
  obtain ⟨whole, cs', readWhole, fraction, cs'', readFraction, exponent, after, readExponent, rfl,
    rfl⟩ := read
  obtain ⟨rfl, digits, front⟩ := digits_of_scanWhole readWhole
  obtain ⟨rfl, behindPoint⟩ := digits_of_scanFraction readFraction
  obtain ⟨tail, rfl, power⟩ := spells_of_scanExponent readExponent
  exact ⟨_, by simp only [List.append_assoc], .parts digits front behindPoint power⟩

/-- What is taken from the front as a number spells it. -/
lemma spells_of_scan {n : Number} {cs rest : List Char} (read : scan cs = some (n, rest)) :
    ∃ body, cs = body ++ rest ∧ SpellsNumber n body := by
  rw [scan.eq_def] at read
  split at read
  · exact spells_of_scanUnsigned read
  · exact spells_of_scanUnsigned read

end Number

lemma exists_gap (cs : List Char) : ∃ gap, IsGap gap ∧ cs = gap ++ skipSpace cs := by
  refine ⟨cs.takeWhile Char.isWhitespace, fun c member => ?_, List.takeWhile_append_dropWhile.symm⟩
  have space := List.mem_takeWhile_imp member
  simp only [Char.isWhitespace, Bool.or_eq_true, decide_eq_true_eq] at space
  rcases space with ((rfl | rfl) | rfl) | rfl
  all_goals decide

lemma spells_of_readScalar {v : Value} {cs rest : List Char}
    (read : readScalar cs = some (v, rest)) : ∃ body, cs = body ++ rest ∧ Spells v body := by
  rw [readScalar.eq_def] at read
  split at read
  · cases read
    exact ⟨_, rfl, .null⟩
  · cases read
    exact ⟨_, rfl, .yes⟩
  · cases read
    exact ⟨_, rfl, .no⟩
  · obtain ⟨⟨s, after⟩, found, same⟩ := Option.map_eq_some_iff.1 read
    cases same
    obtain ⟨body, shape, spelled⟩ := spells_of_unquote found
    exact ⟨body, shape, .text spelled⟩
  · obtain ⟨⟨n, after⟩, found, same⟩ := Option.map_eq_some_iff.1 read
    cases same
    obtain ⟨body, shape, spelled⟩ := Number.spells_of_scan found
    exact ⟨body, shape, .number spelled⟩

lemma exists_rest_of_passColon {cs rest : List Char} (read : passColon cs = some rest) :
    ∃ gap, IsGap gap ∧ cs = gap ++ ':' :: rest := by
  obtain ⟨gap, blank, shape⟩ := exists_gap cs
  rw [passColon] at read
  split at read
  · rename_i same
    cases read
    exact ⟨gap, blank, by rw [shape, same]⟩
  · cases read

lemma spells_of_readKey {key : String} {cs rest : List Char}
    (read : readKey cs = some (key, rest)) :
    ∃ gap name gap', IsGap gap ∧ SpellsText key name ∧ IsGap gap' ∧
      cs = gap ++ (name ++ (gap' ++ ':' :: rest)) := by
  obtain ⟨gap, blank, shape⟩ := exists_gap cs
  rw [readKey] at read
  split at read
  · rename_i same
    obtain ⟨⟨s, after⟩, found, passed⟩ := Option.bind_eq_some_iff.1 read
    obtain ⟨behind, colon, same'⟩ := Option.map_eq_some_iff.1 passed
    cases same'
    obtain ⟨name, quoted, spelled⟩ := spells_of_unquote found
    obtain ⟨gap', blank', rfl⟩ := exists_rest_of_passColon colon
    exact ⟨gap, name, gap', blank, spelled, blank', by rw [shape, same, quoted]⟩
  · cases read

/-- Whatever the reader takes in so many steps spells what it makes of it. -/
structure TakesSpellings (steps : Nat) : Prop where
  value {v : Value} {cs rest : List Char} (read : readValue steps cs = some (v, rest)) :
    ∃ gap body, IsGap gap ∧ cs = gap ++ (body ++ rest) ∧ Spells v body
  items {vs : List Value} {cs rest : List Char} (read : readItems steps cs = some (vs, rest)) :
    ∃ body, cs = body ++ rest ∧ SpellsItems vs body
  member {m : String × Value} {cs rest : List Char} (read : readMember steps cs = some (m, rest)) :
    ∃ gap body, IsGap gap ∧ cs = gap ++ (body ++ rest) ∧ SpellsMember m.1 m.2 body
  members {ms : List (String × Value)} {cs rest : List Char}
    (read : readMembers steps cs = some (ms, rest)) :
    ∃ body, cs = body ++ rest ∧ SpellsMembers ms body

namespace TakesSpellings

variable {steps : Nat} {cs rest : List Char}

lemma value_succ (takes : TakesSpellings steps) {v : Value}
    (read : readValue (steps + 1) cs = some (v, rest)) :
    ∃ gap body, IsGap gap ∧ cs = gap ++ (body ++ rest) ∧ Spells v body := by
  obtain ⟨gap, blank, shape⟩ := exists_gap cs
  rw [readValue] at read
  split at read
  · rename_i inner same
    obtain ⟨inside, blank', shape'⟩ := exists_gap inner
    split at read
    · rename_i same'
      cases read
      refine ⟨gap, '[' :: (inside ++ [']']), blank, ?_, .noItems blank'⟩
      rw [shape, same, shape', same']
      simp
    · obtain ⟨⟨first, behind⟩, item, more⟩ := Option.bind_eq_some_iff.1 read
      obtain ⟨⟨later, after⟩, items, same'⟩ := Option.map_eq_some_iff.1 more
      cases same'
      obtain ⟨inside, body, blank', rfl, spelled⟩ := takes.value item
      obtain ⟨tail, rfl, spelled'⟩ := takes.items items
      refine ⟨gap, '[' :: (inside ++ (body ++ tail)), blank, ?_, .items blank' spelled spelled'⟩
      rw [shape, same]
      simp
  · rename_i inner same
    obtain ⟨inside, blank', shape'⟩ := exists_gap inner
    split at read
    · rename_i same'
      cases read
      refine ⟨gap, '\x7b' :: (inside ++ ['\x7d']), blank, ?_, .noMembers blank'⟩
      rw [shape, same, shape', same']
      simp
    · obtain ⟨⟨first, behind⟩, member, more⟩ := Option.bind_eq_some_iff.1 read
      obtain ⟨⟨later, after⟩, members, same'⟩ := Option.map_eq_some_iff.1 more
      cases same'
      obtain ⟨inside, body, blank', rfl, spelled⟩ := takes.member member
      obtain ⟨tail, rfl, spelled'⟩ := takes.members members
      refine ⟨gap, '\x7b' :: (inside ++ (body ++ tail)), blank, ?_,
        .members blank' spelled spelled'⟩
      rw [shape, same]
      simp
  · obtain ⟨body, same, spelled⟩ := spells_of_readScalar read
    exact ⟨gap, body, blank, by rw [← same, ← shape], spelled⟩

lemma items_succ (takes : TakesSpellings steps) {vs : List Value}
    (read : readItems (steps + 1) cs = some (vs, rest)) :
    ∃ body, cs = body ++ rest ∧ SpellsItems vs body := by
  obtain ⟨gap, blank, shape⟩ := exists_gap cs
  rw [readItems] at read
  split at read
  · rename_i same
    cases read
    refine ⟨gap ++ [']'], ?_, .close blank⟩
    rw [shape, same]
    simp
  · rename_i same
    obtain ⟨⟨first, behind⟩, item, more⟩ := Option.bind_eq_some_iff.1 read
    obtain ⟨⟨later, after⟩, items, same'⟩ := Option.map_eq_some_iff.1 more
    cases same'
    obtain ⟨inside, body, blank', rfl, spelled⟩ := takes.value item
    obtain ⟨tail, rfl, spelled'⟩ := takes.items items
    refine ⟨gap ++ ',' :: (inside ++ (body ++ tail)), ?_, .next blank blank' spelled spelled'⟩
    rw [shape, same]
    simp
  · cases read

lemma member_succ (takes : TakesSpellings steps) {m : String × Value}
    (read : readMember (steps + 1) cs = some (m, rest)) :
    ∃ gap body, IsGap gap ∧ cs = gap ++ (body ++ rest) ∧ SpellsMember m.1 m.2 body := by
  rw [readMember] at read
  obtain ⟨⟨key, behind⟩, named, more⟩ := Option.bind_eq_some_iff.1 read
  obtain ⟨⟨v, after⟩, value, same⟩ := Option.map_eq_some_iff.1 more
  cases same
  obtain ⟨gap, name, gap', blank, spelled, blank', rfl⟩ := spells_of_readKey named
  obtain ⟨inside, body, blank'', rfl, spelled'⟩ := takes.value value
  exact ⟨gap, _, blank, by simp, .member spelled blank' blank'' spelled'⟩

lemma members_succ (takes : TakesSpellings steps) {ms : List (String × Value)}
    (read : readMembers (steps + 1) cs = some (ms, rest)) :
    ∃ body, cs = body ++ rest ∧ SpellsMembers ms body := by
  obtain ⟨gap, blank, shape⟩ := exists_gap cs
  rw [readMembers] at read
  split at read
  · rename_i same
    cases read
    refine ⟨gap ++ ['\x7d'], ?_, .close blank⟩
    rw [shape, same]
    simp
  · rename_i same
    obtain ⟨⟨first, behind⟩, member, more⟩ := Option.bind_eq_some_iff.1 read
    obtain ⟨⟨later, after⟩, members, same'⟩ := Option.map_eq_some_iff.1 more
    cases same'
    obtain ⟨inside, body, blank', rfl, spelled⟩ := takes.member member
    obtain ⟨tail, rfl, spelled'⟩ := takes.members members
    refine ⟨gap ++ ',' :: (inside ++ (body ++ tail)), ?_, .next blank blank' spelled spelled'⟩
    rw [shape, same]
    simp
  · cases read

end TakesSpellings

lemma takesSpellings (steps : Nat) : TakesSpellings steps := by
  induction steps with
  | zero => exact ⟨nofun, nofun, nofun, nofun⟩
  | succ steps ih => exact ⟨ih.value_succ, ih.items_succ, ih.member_succ, ih.members_succ⟩

/-- A text is read as a value exactly if it spells that value. -/
lemma Value.ofText?_eq_some_iff {text : String} {v : Value} :
    ofText? text = some v ↔ v.SpelledBy text := by
  refine ⟨fun read => ?_, ofText?_of_spelledBy⟩
  rw [ofText?] at read
  split at read
  · rename_i w rest found
    obtain ⟨front, body, blank, whole, spelled⟩ := (takesSpellings _).value found
    obtain ⟨back, blank', shape⟩ := exists_gap rest
    split at read
    · rename_i ended
      cases read
      rw [List.isEmpty_iff.1 ended, List.append_nil] at shape
      exact .within blank spelled blank' (shape ▸ whole)
    · cases read
  · cases read

/-- A comma wants an item behind it, and a number has no zeros in front. -/
example : (Value.ofText? "[0,]").isNone ∧ (Value.ofText? "[01]").isNone := by decide

/-- No text spells two values. -/
lemma Value.SpelledBy.unique {text : String} {v w : Value} (spelled : v.SpelledBy text)
    (spelled' : w.SpelledBy text) : v = w := by
  have read := ofText?_of_spelledBy spelled
  rw [ofText?_of_spelledBy spelled'] at read
  exact (Option.some.inj read).symm

end Json
end Countinghouse
