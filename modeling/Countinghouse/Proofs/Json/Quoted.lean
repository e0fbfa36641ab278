import Countinghouse.Proofs.Json.Grammar
import Mathlib.Algebra.GroupWithZero.Nat
import Mathlib.Tactic.Common

/-!
Strings found again in what spells them, whatever follows; among the spellings is the one that is
written.
-/
namespace Countinghouse

namespace Text

lemma hexValue?_toLower (c : Char) : hexValue? c.toLower = hexValue? c := by
  by_cases upper : 'A'.val ≤ c.val ∧ c.val ≤ 'Z'.val
  · have letters : ∀ n, n < 26 →
        hexValue? (Char.ofNat (65 + n)).toLower = hexValue? (Char.ofNat (65 + n)) := by decide
    have low : 65 ≤ c.toNat := upper.1
    have high : c.toNat ≤ 90 := upper.2
    have letter := letters (c.toNat - 65) (by omega)
    rwa [Nat.add_sub_cancel' low, Char.ofNat_toNat] at letter
  · have same : c.toLower = c := dif_neg fun both => upper both
    rw [same]

lemma hexFrom?_map_toLower (acc : Nat) (cs : List Char) :
    hexFrom? acc (cs.map Char.toLower) = hexFrom? acc cs := by
  induction cs generalizing acc with
  | nil => rfl
  | cons c cs ih =>
    simp only [List.map_cons, hexFrom?, hexValue?_toLower]
    cases hexValue? c with
    | none => rfl
    | some d => exact ih _

/-- Digits are read as the number that they write, whatever the case of their letters. -/
lemma hexNumber?_of_map_toLower {width n : Nat} {cs : List Char} (small : n < 16 ^ width)
    (digits : cs.map Char.toLower = hexPadded width n) : hexNumber? cs = some n := by
  have value := hexNumber?_hexPadded width n
  rwa [← digits, hexNumber?, hexFrom?_map_toLower, Nat.pow_eq, Nat.mod_eq_of_lt small] at value

end Text

namespace Json

@[simp] lemma characters_char (c : Char) (ps : List Piece) :
    characters (.char c :: ps) = (characters ps).map (c :: ·) := by
  rw [characters]

/-- A unit that is no half of a pair stands for itself. -/
lemma characters_unit {n : Nat} (single : n < 0xD800 ∨ 0xE000 ≤ n) (ps : List Piece) :
    characters (.unit n :: ps) = (characters ps).map (Char.ofNat n :: ·) := by
  have notLeading : isLeading n = false := by
    simp only [isLeading, Bool.and_eq_false_iff, decide_eq_false_iff_not]
    omega
  have notTrailing : isTrailing n = false := by
    simp only [isTrailing, Bool.and_eq_false_iff, decide_eq_false_iff_not]
    omega
  cases ps with
  | nil => simp [characters, notLeading, notTrailing]
  | cons p ps =>
    cases p with
    | char c => simp [characters, notLeading, notTrailing]
    | unit m => simp [characters, notLeading, notTrailing]

lemma characters_pair {n : Nat} (beyond : 0x10000 ≤ n) (high : n < 0x110000) (ps : List Piece) :
    characters (.unit (0xD800 + (n - 0x10000) / 0x400) ::
      .unit (0xDC00 + (n - 0x10000) % 0x400) :: ps) = (characters ps).map (Char.ofNat n :: ·) := by
  have leading : isLeading (0xD800 + (n - 0x10000) / 0x400) = true := by
    simp only [isLeading, Bool.and_eq_true, decide_eq_true_eq]
    omega
  have trailing : isTrailing (0xDC00 + (n - 0x10000) % 0x400) = true := by
    simp only [isTrailing, Bool.and_eq_true, decide_eq_true_eq]
    omega
  have whole : 0x10000 + (0xD800 + (n - 0x10000) / 0x400 - 0xD800) * 0x400 +
      (0xDC00 + (n - 0x10000) % 0x400 - 0xDC00) = n := by omega
  rw [characters, if_pos leading, if_pos trailing, whole]

lemma unquote_of_pieces {front rest : List Char} {ps : List Piece} {c : Char}
    (read : pieces (front ++ rest) = (pieces rest).map fun q => (ps ++ q.1, q.2))
    (means : ∀ qs, characters (ps ++ qs) = (characters qs).map (c :: ·)) :
    unquote (front ++ rest) = (unquote rest).map fun q => (c :: q.1, q.2) := by
  rw [unquote, unquote, read]
  cases pieces rest with
  | none => rfl
  | some q =>
    simp only [Option.map_some, means, Option.map_map]
    rfl

lemma pieces_plain {c : Char} (plain : ¬ (c.toNat < 0x20 ∨ c = '\\')) (noQuote : c ≠ '"')
    (rest : List Char) :
    pieces ([c] ++ rest) = (pieces rest).map fun q => ([.char c] ++ q.1, q.2) := by
  have noBackslash : c ≠ '\\' := fun same => plain (.inr same)
  have unfolded := pieces.eq_5 c rest noQuote (fun _ _ _ _ _ same _ => noBackslash same)
    (fun _ _ same _ => noBackslash same)
  rw [List.singleton_append, unfolded, if_neg plain]
  cases pieces rest with
  | none => rfl
  | some q => rfl

lemma pieces_short {e c : Char} (short : unescape? e = some c) (rest : List Char) :
    pieces (['\\', e] ++ rest) = (pieces rest).map fun q => ([.char c] ++ q.1, q.2) := by
  have noUnit : e ≠ 'u' := by
    rintro rfl
    cases short
  rw [List.cons_append, List.singleton_append,
    pieces.eq_4 e rest fun _ _ _ _ _ same _ => noUnit same, short]
  cases pieces rest with
  | none => rfl
  | some q => rfl

lemma pieces_unit {n : Nat} {cs : List Char} (spelled : SpellsUnit n cs) (rest : List Char) :
    pieces (cs ++ rest) = (pieces rest).map fun q => ([.unit n] ++ q.1, q.2) := by
  cases spelled with
  | @hex ds small digits =>
    have value : Text.hexNumber? ds = some n := Text.hexNumber?_of_map_toLower small digits
    have four : ds.length = 4 := by
      rw [← List.length_map (f := Char.toLower), digits, Text.length_hexPadded]
    obtain ⟨a, b, c, d, rfl⟩ : ∃ a b c d, ds = [a, b, c, d] := by
      match ds, four with
      | [a, b, c, d], _ => exact ⟨a, b, c, d, rfl⟩
    simp only [List.cons_append, List.nil_append, pieces, value]
    cases pieces rest with
    | none => rfl
    | some q => rfl

lemma unescape?_of_mem {e c : Char} (listed : (e, c) ∈ shortEscapes) : unescape? e = some c := by
  have all : ∀ p ∈ shortEscapes, unescape? p.1 = some p.2 := by decide
  exact all (e, c) listed

lemma toNat_lt (c : Char) : c.toNat < 0x110000 := by
  rcases c.valid with low | ⟨-, high⟩
  · exact Nat.lt_trans low (by decide)
  · exact high

/-- Every character is read back from any of its spellings. -/
lemma unquote_of_spells_char {c : Char} {front : List Char} (spelled : SpellsChar c front)
    (rest : List Char) :
    unquote (front ++ rest) = (unquote rest).map fun q => (c :: q.1, q.2) := by
  cases spelled with
  | plain visible noQuote noBackslash =>
    have plain : ¬ (c.toNat < 0x20 ∨ c = '\\') := not_or.2 ⟨Nat.not_lt.2 visible, noBackslash⟩
    exact unquote_of_pieces (pieces_plain plain noQuote rest) (characters_char c)
  | short listed =>
    exact unquote_of_pieces (pieces_short (unescape?_of_mem listed) rest) (characters_char c)
  | unit unit =>
    have single : c.toNat < 0xD800 ∨ 0xE000 ≤ c.toNat := by
      rcases c.valid with low | ⟨high, -⟩
      · exact .inl low
      · exact .inr high
    have means := characters_unit single
    rw [Char.ofNat_toNat] at means
    exact unquote_of_pieces (pieces_unit unit rest) means
  | @pair high low beyond leading trailing =>
    have means := characters_pair beyond (toNat_lt c)
    rw [Char.ofNat_toNat] at means
    have read : pieces (high ++ low ++ rest) = (pieces rest).map fun q =>
        ([.unit (0xD800 + (c.toNat - 0x10000) / 0x400),
          .unit (0xDC00 + (c.toNat - 0x10000) % 0x400)] ++ q.1, q.2) := by
      rw [List.append_assoc, pieces_unit leading, pieces_unit trailing, Option.map_map]
      rfl
    exact unquote_of_pieces read means

/-- A string is read back from any of its spellings. -/
lemma unquote_of_spells {s cs : List Char} (spelled : SpellsChars s cs) (rest : List Char) :
    unquote (cs ++ '"' :: rest) = some (s, rest) := by
  induction spelled with
  | nil => rfl
  | cons first later ih =>
    rw [List.append_assoc, unquote_of_spells_char first, ih, Option.map_some]

lemma spells_escapeChar (c : Char) : SpellsChar c (escapeChar c) := by
  have short {e d : Char} (same : c = d) (listed : (e, d) ∈ shortEscapes) :
      SpellsChar c ['\\', e] :=
    same ▸ .short listed
  rw [escapeChar]
  split_ifs with quote backslash backspace feed newline carriage tab control
  · exact short quote (by decide)
  · exact short backslash (by decide)
  · exact short backspace (by decide)
  · exact short feed (by decide)
  · exact short newline (by decide)
  · exact short carriage (by decide)
  · exact short tab (by decide)
  · refine .unit (.hex (Nat.lt_trans control (by decide)) ?_)
    have lower : ∀ n, n < 0x20 → (Text.hexPadded 4 n).map Char.toLower = Text.hexPadded 4 n := by
      decide
    exact lower c.toNat control
  · exact .plain (Nat.not_lt.1 control) quote backslash

lemma spells_escape (cs : List Char) : SpellsChars cs (escape cs) := by
  induction cs with
  | nil => exact .nil
  | cons c cs ih => exact .cons (spells_escapeChar c) ih

/-- No character needs an escape. -/
def IsPlain (cs : List Char) : Prop := ∀ c ∈ cs, 0x20 ≤ c.toNat ∧ c ≠ '"' ∧ c ≠ '\\'

lemma isPlain_nil : IsPlain [] := fun _ none => by cases none

lemma isPlain_append {cs ds : List Char} : IsPlain (cs ++ ds) ↔ IsPlain cs ∧ IsPlain ds :=
  List.forall_mem_append

lemma isPlain_cons {c : Char} {cs : List Char} :
    IsPlain (c :: cs) ↔ (0x20 ≤ c.toNat ∧ c ≠ '"' ∧ c ≠ '\\') ∧ IsPlain cs :=
  List.forall_mem_cons

lemma isPlain_of_subset {cs known : List Char} (plain : IsPlain known)
    (subset : ∀ c ∈ cs, c ∈ known) :
    IsPlain cs := fun c member => plain c (subset c member)

lemma escape_of_plain {cs : List Char} (plain : IsPlain cs) : escape cs = cs := by
  induction cs with
  | nil => rfl
  | cons c cs ih =>
    obtain ⟨⟨visible, noQuote, noBackslash⟩, later⟩ := isPlain_cons.1 plain
    have visible' {d : Char} (control : d.toNat < 0x20) : c ≠ d := by
      rintro rfl
      exact absurd control (Nat.not_lt.2 visible)
    rw [escape_cons, ih later, escapeChar, if_neg noQuote, if_neg noBackslash,
      if_neg (visible' (by decide)), if_neg (visible' (by decide)), if_neg (visible' (by decide)),
      if_neg (visible' (by decide)), if_neg (visible' (by decide)), if_neg (Nat.not_lt.2 visible)]
    rfl

/-- What can be read as characters consists of pieces. -/
lemma exists_pieces_of_unquote {cs s rest : List Char} (read : unquote cs = some (s, rest)) :
    ∃ ps, pieces cs = some (ps, rest) := by
  simp only [unquote] at read
  split at read
  · rename_i ps after there
    obtain ⟨t, -, same⟩ := Option.map_eq_some_iff.1 read
    cases same
    exact ⟨ps, there⟩
  · cases read

end Json
end Countinghouse
