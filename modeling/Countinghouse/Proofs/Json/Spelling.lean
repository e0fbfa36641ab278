import Countinghouse.Json.Record
import Countinghouse.Proofs.Json.Number
import Countinghouse.Proofs.Json.Quoted

/-!
Values met by a reader. Of a value that is spelt out it finds the lead, and one that nobody asked
for it passes over to its very end.
-/
namespace Countinghouse.Json

lemma skipSpace_cons {c : Char} (solid : c.isWhitespace = false) (cs : List Char) :
    skipSpace (c :: cs) = c :: cs := by
  rw [skipSpace, List.dropWhile_cons, if_neg (by simp [solid])]

variable {gap : List Char}

lemma skipSpace_gap (blank : IsGap gap) (cs : List Char) :
    skipSpace (gap ++ cs) = skipSpace cs := by
  have space : ∀ c ∈ [' ', '\t', '\n', '\r'], c.isWhitespace = true := by simp
  exact List.dropWhile_append_of_pos fun c member => space c (blank c member)

lemma skipSpace_gap_cons (blank : IsGap gap) {c : Char} (solid : c.isWhitespace = false)
    (cs : List Char) : skipSpace (gap ++ c :: cs) = c :: cs := by
  rw [skipSpace_gap blank, skipSpace_cons solid]

def Value.IsScalar : Value → Prop
  | array _ => False
  | object _ => False
  | _ => True

/-- Only a number could be continued by what stands behind it. -/
def Value.EndsAt (v : Value) (rest : List Char) : Prop := ∀ n, v = number n → n.EndsAt rest

lemma Number.Ends.value {rest : List Char} (ends : Number.Ends rest) (v : Value) : v.EndsAt rest :=
  fun n _ => ends.endsAt n

/-- Behind a gap a number ends where it would end without the gap. -/
lemma ends_gap {rest : List Char} (blank : IsGap gap) (ends : Number.Ends rest) :
    Number.Ends (gap ++ rest) := by
  cases gap with
  | nil => exact ends
  | cons b bs =>
    intro c first
    cases first
    have apart : ∀ c ∈ [' ', '\t', '\n', '\r'],
        c.isDigit = false ∧ c ≠ '.' ∧ c ≠ 'e' ∧ c ≠ 'E' := by simp
    exact apart b (blank b List.mem_cons_self)

/-- Marks that stand behind a value. -/
lemma ends_cons {c : Char} (mark : c ∈ [',', ']', '\x7d']) (rest : List Char) :
    Number.Ends (c :: rest) := by
  intro d first
  cases first
  have apart : ∀ c ∈ [',', ']', '\x7d'],
      c.isDigit = false ∧ c ≠ '.' ∧ c ≠ 'e' ∧ c ≠ 'E' := by simp
  exact apart c mark

lemma ends_of_spells_items {vs : List Value} {cs : List Char} (spelled : SpellsItems vs cs)
    (rest : List Char) : Number.Ends (cs ++ rest) := by
  cases spelled with
  | close blank =>
    rw [List.append_assoc]
    exact ends_gap blank (ends_cons (by decide) rest)
  | next blank blank' item later =>
    rw [List.append_assoc]
    exact ends_gap blank (ends_cons (by decide) _)

lemma ends_of_spells_members {ms : List (String × Value)} {cs : List Char}
    (spelled : SpellsMembers ms cs) (rest : List Char) : Number.Ends (cs ++ rest) := by
  cases spelled with
  | close blank =>
    rw [List.append_assoc]
    exact ends_gap blank (ends_cons (by decide) rest)
  | next blank blank' member later =>
    rw [List.append_assoc]
    exact ends_gap blank (ends_cons (by decide) _)

lemma Number.exists_front_of_spells {n : Number} {cs : List Char} (spelled : SpellsNumber n cs) :
    ∃ c rest, cs = c :: rest ∧ (c = '-' ∨ c.isDigit = true) := by
  cases spelled with
  | @parts negative whole fraction tail exponent digits front behindPoint power =>
    cases negative with
    | true => exact ⟨'-', _, rfl, .inl rfl⟩
    | false =>
      obtain ⟨d, ds, shape⟩ := List.exists_cons_of_ne_nil digits.1
      refine ⟨d, ds ++ _, by rw [shape]; rfl, .inr (digits.2 d ?_)⟩
      rw [shape]
      exact List.mem_cons_self

lemma solid_of_number_front {c : Char} (front : c = '-' ∨ c.isDigit = true) :
    c.isWhitespace = false := by
  by_contra blank
  simp only [Char.isWhitespace, Bool.not_eq_false, Bool.or_eq_true, decide_eq_true_eq] at blank
  rcases blank with ((rfl | rfl) | rfl) | rfl <;> exact absurd front (by decide)

/-- A value begins with neither a blank nor a mark that stands behind values. -/
lemma exists_front_of_spells {v : Value} {cs : List Char} (spelled : Spells v cs) :
    ∃ c rest, cs = c :: rest ∧ c.isWhitespace = false ∧ c ≠ ']' := by
  cases spelled with
  | number number =>
    obtain ⟨c, rest, shape, front⟩ := Number.exists_front_of_spells number
    refine ⟨c, rest, shape, solid_of_number_front front, ?_⟩
    rintro rfl
    exact absurd front (by decide)
  | text text =>
    cases text with
    | quoted inner => exact ⟨'"', _, rfl, by decide, by decide⟩
  | null => exact ⟨'n', _, rfl, by decide, by decide⟩
  | yes => exact ⟨'t', _, rfl, by decide, by decide⟩
  | no => exact ⟨'f', _, rfl, by decide, by decide⟩
  | noItems blank => exact ⟨'[', _, rfl, by decide, by decide⟩
  | items blank first later => exact ⟨'[', _, rfl, by decide, by decide⟩
  | noMembers blank => exact ⟨'\x7b', _, rfl, by decide, by decide⟩
  | members blank first later => exact ⟨'\x7b', _, rfl, by decide, by decide⟩

lemma exists_front_of_scalar {v : Value} {cs : List Char} (spelled : Spells v cs)
    (scalar : v.IsScalar) :
    ∃ c rest, cs = c :: rest ∧ c.isWhitespace = false ∧ c ≠ '[' ∧ c ≠ '\x7b' := by
  cases spelled with
  | number number =>
    obtain ⟨c, rest, shape, front⟩ := Number.exists_front_of_spells number
    refine ⟨c, rest, shape, solid_of_number_front front, ?_, ?_⟩
    · rintro rfl
      exact absurd front (by decide)
    · rintro rfl
      exact absurd front (by decide)
  | text text =>
    cases text with
    | quoted inner => exact ⟨'"', _, rfl, by decide, by decide, by decide⟩
  | null => exact ⟨'n', _, rfl, by decide, by decide, by decide⟩
  | yes => exact ⟨'t', _, rfl, by decide, by decide, by decide⟩
  | no => exact ⟨'f', _, rfl, by decide, by decide, by decide⟩
  | noItems blank => exact scalar.elim
  | items blank first later => exact scalar.elim
  | noMembers blank => exact scalar.elim
  | members blank first later => exact scalar.elim

lemma unquote_of_spells_text {s : String} {cs : List Char} (spelled : SpellsText s cs)
    (rest : List Char) :
    ∃ inner, cs ++ rest = '"' :: inner ∧ unquote inner = some (s.toList, rest) := by
  cases spelled with
  | @quoted cs inner =>
    refine ⟨cs ++ '"' :: rest, by simp, ?_⟩
    exact unquote_of_spells inner rest

/-- What a value begins with, if it is anything: a number too large for a double is nothing. -/
def Value.lead? : Value → Option Lead
  | null => some .null
  | bool b => some (.bool b)
  | number n => n.value?.map .number
  | text s => some (.text s)
  | array _ => some .array
  | object _ => some .object

namespace Lead

/-- No other lead begins with a sign or a digit. -/
lemma atFront_of_number_front {c : Char} (front : c = '-' ∨ c.isDigit = true) (cs : List Char) :
    atFront (c :: cs) =
      match Number.scan (c :: cs) with
      | some (n, rest) => n.value?.map fun m => (number m, rest)
      | none => none := by
  rw [atFront.eq_def]
  split
  case h_7 => rfl
  all_goals
    rename_i same
    rw [List.cons.injEq] at same
    rw [same.1] at front
    exact absurd front (by decide)

lemma atFront_of_spells {v : Value} {cs rest : List Char} (spelled : Spells v cs)
    (scalar : v.IsScalar) (ends : v.EndsAt rest) :
    atFront (cs ++ rest) = v.lead?.map (·, rest) := by
  cases spelled with
  | null => rfl
  | yes => rfl
  | no => rfl
  | @number n cs number =>
    obtain ⟨c, tail, rfl, front⟩ := Number.exists_front_of_spells number
    have scanned := Number.scan_of_spells number (ends n rfl)
    rw [List.cons_append] at scanned ⊢
    rw [atFront_of_number_front front, scanned, Value.lead?, Option.map_map]
    rfl
  | @text s cs text =>
    obtain ⟨inner, shape, found⟩ := unquote_of_spells_text text rest
    rw [shape, atFront, found, Option.map_some, String.ofList_toList]
    rfl
  | noItems blank => exact scalar.elim
  | items blank first later => exact scalar.elim
  | noMembers blank => exact scalar.elim
  | members blank first later => exact scalar.elim

/-- The lead of a value is found behind any gap. -/
lemma read_of_spells {v : Value} {cs rest : List Char} (blank : IsGap gap) (spelled : Spells v cs)
    (scalar : v.IsScalar) (ends : v.EndsAt rest) :
    read (gap ++ (cs ++ rest)) = v.lead?.map (·, rest) := by
  obtain ⟨c, tail, shape, solid, -⟩ := exists_front_of_spells spelled
  have found := atFront_of_spells spelled scalar ends
  rw [shape, List.cons_append] at found ⊢
  rw [read, skipSpace_gap_cons blank solid, found]

/-- An opening bracket decides at once, whatever stands behind it. -/
lemma exists_read_of_spells {v : Value} {cs : List Char} (blank : IsGap gap)
    (spelled : Spells v cs) (compound : ¬ v.IsScalar) (rest : List Char) :
    ∃ inner lead, v.lead? = some lead ∧ (lead = .array ∨ lead = .object) ∧
      read (gap ++ (cs ++ rest)) = some (lead, inner) := by
  have array (inner : List Char) : read (gap ++ ('[' :: inner)) = some (.array, inner) := by
    rw [read, skipSpace_gap_cons blank (by decide)]
    rfl
  have object (inner : List Char) : read (gap ++ ('\x7b' :: inner)) = some (.object, inner) := by
    rw [read, skipSpace_gap_cons blank (by decide)]
    rfl
  cases spelled with
  | noItems => exact ⟨_, _, rfl, .inl rfl, array _⟩
  | items => exact ⟨_, _, rfl, .inl rfl, array _⟩
  | noMembers => exact ⟨_, _, rfl, .inr rfl, object _⟩
  | members => exact ⟨_, _, rfl, .inr rfl, object _⟩
  | _ => exact absurd trivial compound

end Lead

lemma pass_of_move {stage stage' : Stage} {stack stack' : List Bracket} {cs rest : List Char}
    (moved : move stage stack cs = some (stage', stack', rest)) :
    pass stage stack cs = pass stage' stack' rest := by
  have open_ : ¬ (stage = .after ∧ stack = []) := by
    rintro ⟨rfl, rfl⟩
    cases moved
  rw [pass, if_neg open_]
  split
  · rename_i there
    rw [moved] at there
    cases there
    rfl
  · rename_i there
    rw [moved] at there
    cases there

lemma passScalar_of_number_front {c : Char} (front : c = '-' ∨ c.isDigit = true)
    (cs : List Char) : passScalar (c :: cs) = (Number.scan (c :: cs)).map (·.2) := by
  rw [passScalar.eq_def]
  split
  case h_5 => rfl
  all_goals
    rename_i same
    rw [List.cons.injEq] at same
    rw [same.1] at front
    exact absurd front (by decide)

lemma passScalar_of_spells {v : Value} {cs rest : List Char} (spelled : Spells v cs)
    (scalar : v.IsScalar) (ends : Number.Ends rest) : passScalar (cs ++ rest) = some rest := by
  cases spelled with
  | null => rfl
  | yes => rfl
  | no => rfl
  | @number n cs number =>
    obtain ⟨c, tail, rfl, front⟩ := Number.exists_front_of_spells number
    have scanned := Number.scan_of_spells number (ends.endsAt n)
    rw [List.cons_append] at scanned ⊢
    rw [passScalar_of_number_front front, scanned, Option.map_some]
  | text text =>
    obtain ⟨inner, shape, found⟩ := unquote_of_spells_text text rest
    obtain ⟨ps, pieces⟩ := exists_pieces_of_unquote found
    rw [shape, passScalar, pieces, Option.map_some]
  | noItems blank => exact scalar.elim
  | items blank first later => exact scalar.elim
  | noMembers blank => exact scalar.elim
  | members blank first later => exact scalar.elim

lemma move_of_spells {v : Value} {cs rest : List Char} (spelled : Spells v cs)
    (scalar : v.IsScalar) (ends : Number.Ends rest) (stack : List Bracket) :
    move .value stack (cs ++ rest) = some (.after, stack, rest) := by
  obtain ⟨c, tail, shape, solid, noArray, noObject⟩ := exists_front_of_scalar spelled scalar
  have passed := passScalar_of_spells spelled scalar ends
  rw [shape, List.cons_append] at passed ⊢
  rw [move, skipSpace_cons solid]
  split
  · rename_i same
    exact absurd (List.cons.inj same).1 noArray
  · rename_i same
    exact absurd (List.cons.inj same).1 noObject
  · rw [passed, Option.map_some]

lemma pass_gap (blank : IsGap gap) {stage : Stage} {stack : List Bracket}
    (inside : ¬ (stage = .after ∧ stack = [])) (cs : List Char) :
    pass stage stack (gap ++ cs) = pass stage stack cs := by
  have same : move stage stack (gap ++ cs) = move stage stack cs := by
    cases stage with
    | value => simp only [move, skipSpace_gap blank]
    | after =>
      cases stack with
      | nil => exact absurd ⟨rfl, rfl⟩ inside
      | cons b stack => cases b <;> simp only [move, skipSpace_gap blank]
  rw [pass, pass, if_neg inside, if_neg inside]
  split
  · rename_i there
    rw [same] at there
    rw [there]
  · rename_i there
    rw [same] at there
    rw [there]

lemma exists_skipSpace_of_spells_text {s : String} {cs : List Char} (blank : IsGap gap)
    (spelled : SpellsText s cs) (rest : List Char) :
    ∃ inner, skipSpace (gap ++ (cs ++ rest)) = '"' :: inner ∧
      unquote inner = some (s.toList, rest) := by
  obtain ⟨inner, shape, found⟩ := unquote_of_spells_text spelled rest
  refine ⟨inner, ?_, found⟩
  rw [shape, skipSpace_gap_cons blank (by decide)]

lemma passColon_gap (blank : IsGap gap) (cs : List Char) :
    passColon (gap ++ ':' :: cs) = some cs := by
  rw [passColon, skipSpace_gap_cons blank (by decide)]
  rfl

lemma passKey_of_spells_text {key : String} {name gap' : List Char} (blank : IsGap gap)
    (named : SpellsText key name) (blank' : IsGap gap') (rest : List Char) :
    passKey (gap ++ (name ++ (gap' ++ ':' :: rest))) = some rest := by
  obtain ⟨inner, front, found⟩ :=
    exists_skipSpace_of_spells_text blank named (gap' ++ ':' :: rest)
  obtain ⟨ps, pieces⟩ := exists_pieces_of_unquote found
  simp only [passKey, front, pieces, passColon_gap blank']

lemma exists_skipSpace_of_spells_member {key : String} {v : Value} {cs : List Char}
    (blank : IsGap gap) (spelled : SpellsMember key v cs) (rest : List Char) :
    ∃ inner, skipSpace (gap ++ (cs ++ rest)) = '"' :: inner := by
  cases spelled with
  | member named blank' blank'' item =>
    obtain ⟨inner, front, -⟩ := exists_skipSpace_of_spells_text blank named _
    rw [List.append_assoc]
    exact ⟨inner, front⟩

mutual

/-- A value is passed over, whatever brackets are open around it. -/
lemma pass_of_spells : {v : Value} → {cs : List Char} → Spells v cs → (stack : List Bracket) →
    {rest : List Char} → Number.Ends rest →
    pass .value stack (cs ++ rest) = pass .after stack rest
  | _, _, .null, stack, _, ends => pass_of_move (move_of_spells .null trivial ends stack)
  | _, _, .yes, stack, _, ends => pass_of_move (move_of_spells .yes trivial ends stack)
  | _, _, .no, stack, _, ends => pass_of_move (move_of_spells .no trivial ends stack)
  | _, _, .number number, stack, _, ends =>
    pass_of_move (move_of_spells (.number number) trivial ends stack)
  | _, _, .text text, stack, _, ends =>
    pass_of_move (move_of_spells (.text text) trivial ends stack)
  | _, _, @Spells.noItems gap blank, stack, rest, _ => by
    have inner : skipSpace (gap ++ ']' :: rest) = ']' :: rest :=
      skipSpace_gap_cons blank (by decide) rest
    apply pass_of_move
    rw [List.cons_append, move, skipSpace_cons (by decide), List.append_assoc]
    simp only [List.singleton_append, inner]
  | _, _, @Spells.noMembers gap blank, stack, rest, _ => by
    have inner : skipSpace (gap ++ '\x7d' :: rest) = '\x7d' :: rest :=
      skipSpace_gap_cons blank (by decide) rest
    apply pass_of_move
    rw [List.cons_append, move, skipSpace_cons (by decide), List.append_assoc]
    simp only [List.singleton_append, inner]
  | _, _, @Spells.items gap cs tail v vs blank first later, stack, rest, _ => by
    obtain ⟨c, inner, shape, solid, noClose⟩ := exists_front_of_spells first
    have front := skipSpace_gap_cons blank solid (inner ++ (tail ++ rest))
    rw [← List.cons_append, ← shape] at front
    have opened : move .value stack ('[' :: (gap ++ (cs ++ tail)) ++ rest) =
        some (.value, .array :: stack, gap ++ (cs ++ (tail ++ rest))) := by
      simp only [List.cons_append, List.append_assoc]
      rw [move, skipSpace_cons (by decide)]
      simp only [front]
      split
      · rename_i same
        rw [shape, List.cons_append] at same
        exact absurd (List.cons.inj same).1 noClose
      · rfl
    rw [pass_of_move opened, pass_gap blank (by simp),
      pass_of_spells first _ (ends_of_spells_items later rest),
      pass_of_spells_items later stack rest]
  | _, _, @Spells.members gap cs tail key v ms blank first later, stack, rest, _ => by
    obtain ⟨inner, front⟩ := exists_skipSpace_of_spells_member blank first (tail ++ rest)
    obtain ⟨after, passed, through⟩ := exists_passKey_of_spells blank first stack
      (ends_of_spells_members later rest)
    have opened : move .value stack ('\x7b' :: (gap ++ (cs ++ tail)) ++ rest) =
        some (.value, .object :: stack, after) := by
      simp only [List.cons_append, List.append_assoc]
      rw [move, skipSpace_cons (by decide)]
      simp only [front, passed, Option.map_some]
      rfl
    rw [pass_of_move opened, through, pass_of_spells_members later stack rest]

lemma pass_of_spells_items : {vs : List Value} → {cs : List Char} → SpellsItems vs cs →
    (stack : List Bracket) → (rest : List Char) →
    pass .after (.array :: stack) (cs ++ rest) = pass .after stack rest
  | _, _, .close blank, stack, rest => by
    apply pass_of_move
    rw [List.append_assoc, List.singleton_append, move, skipSpace_gap_cons blank (by decide)]
    rfl
  | _, _, @SpellsItems.next gap gap' cs tail v vs blank blank' item later, stack, rest => by
    have next : move .after (.array :: stack) (gap ++ ',' :: (gap' ++ (cs ++ tail)) ++ rest) =
        some (.value, .array :: stack, gap' ++ (cs ++ (tail ++ rest))) := by
      simp only [List.cons_append, List.append_assoc]
      rw [move, skipSpace_gap_cons blank (by decide)]
      rfl
    rw [pass_of_move next, pass_gap blank' (by simp),
      pass_of_spells item _ (ends_of_spells_items later rest),
      pass_of_spells_items later stack rest]

/-- Behind the key of a member its value is passed over. -/
lemma exists_passKey_of_spells : {key : String} → {v : Value} → {cs : List Char} →
    {gap : List Char} → IsGap gap → SpellsMember key v cs → (stack : List Bracket) →
    {rest : List Char} → Number.Ends rest →
    ∃ after, passKey (gap ++ (cs ++ rest)) = some after ∧
      pass .value (.object :: stack) after = pass .after (.object :: stack) rest
  | _, _, _, gap, blank, @SpellsMember.member key v name gap' gap'' cs named blank' blank'' item,
      stack, rest, ends => by
    have passed := passKey_of_spells_text blank named blank' (gap'' ++ (cs ++ rest))
    refine ⟨gap'' ++ (cs ++ rest), ?_, ?_⟩
    · simpa only [List.append_assoc, List.cons_append] using passed
    · rw [pass_gap blank'' (by simp), pass_of_spells item _ ends]

lemma pass_of_spells_members : {ms : List (String × Value)} → {cs : List Char} →
    SpellsMembers ms cs → (stack : List Bracket) → (rest : List Char) →
    pass .after (.object :: stack) (cs ++ rest) = pass .after stack rest
  | _, _, .close blank, stack, rest => by
    apply pass_of_move
    rw [List.append_assoc, List.singleton_append, move, skipSpace_gap_cons blank (by decide)]
    rfl
  | _, _, @SpellsMembers.next gap gap' cs tail key v ms blank blank' member later, stack, rest => by
    obtain ⟨after, passed, through⟩ := exists_passKey_of_spells blank' member stack
      (ends_of_spells_members later rest)
    have next : move .after (.object :: stack) (gap ++ ',' :: (gap' ++ (cs ++ tail)) ++ rest) =
        some (.value, .object :: stack, after) := by
      simp only [List.cons_append, List.append_assoc]
      rw [move, skipSpace_gap_cons blank (by decide)]
      simp only [passed, Option.map_some]
    rw [pass_of_move next, through, pass_of_spells_members later stack rest]

end

/-- A value that nobody asked for is passed over to its end. -/
lemma passValue_of_spells {v : Value} {cs rest : List Char} (blank : IsGap gap)
    (spelled : Spells v cs) (ends : Number.Ends rest) :
    passValue (gap ++ (cs ++ rest)) = some rest := by
  rw [passValue, pass_gap blank (by simp), pass_of_spells spelled [] ends, pass, if_pos ⟨rfl, rfl⟩]

end Countinghouse.Json
