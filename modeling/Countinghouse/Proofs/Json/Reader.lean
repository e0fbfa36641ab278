import Countinghouse.Proofs.Json.Spelling

/-!
Texts read as values of any shape. The reader goes along the grammar, and whatever spells a value is
read as that value; so no text spells two.
-/
namespace Countinghouse.Json

/-- The scalar that begins here; its number is kept as it is spelt. -/
def readScalar : List Char → Option (Value × List Char)
  | 'n' :: 'u' :: 'l' :: 'l' :: rest => some (.null, rest)
  | 't' :: 'r' :: 'u' :: 'e' :: rest => some (.bool true, rest)
  | 'f' :: 'a' :: 'l' :: 's' :: 'e' :: rest => some (.bool false, rest)
  | '"' :: rest => (unquote rest).map fun p => (.text (String.ofList p.1), p.2)
  | cs => (Number.scan cs).map fun p => (.number p.1, p.2)

/-- The key that begins here, and what follows its colon. -/
def readKey (cs : List Char) : Option (String × List Char) :=
  match skipSpace cs with
  | '"' :: rest => (unquote rest).bind fun p => (passColon p.2).map (String.ofList p.1, ·)
  | _ => none

mutual

/-- The value that begins here and what follows it, if the steps suffice. -/
def readValue : Nat → List Char → Option (Value × List Char)
  | 0, _ => none
  | steps + 1, cs =>
    match skipSpace cs with
    | '[' :: rest =>
      match skipSpace rest with
      | ']' :: after => some (.array [], after)
      | _ =>
        (readValue steps rest).bind fun p =>
          (readItems steps p.2).map fun q => (.array (p.1 :: q.1), q.2)
    | '\x7b' :: rest =>
      match skipSpace rest with
      | '\x7d' :: after => some (.object [], after)
      | _ =>
        (readMember steps rest).bind fun p =>
          (readMembers steps p.2).map fun q => (.object (p.1 :: q.1), q.2)
    | front => readScalar front

/-- The items after the first, up to the closing bracket. -/
def readItems : Nat → List Char → Option (List Value × List Char)
  | 0, _ => none
  | steps + 1, cs =>
    match skipSpace cs with
    | ']' :: rest => some ([], rest)
    | ',' :: rest =>
      (readValue steps rest).bind fun p =>
        (readItems steps p.2).map fun q => (p.1 :: q.1, q.2)
    | _ => none

def readMember : Nat → List Char → Option ((String × Value) × List Char)
  | 0, _ => none
  | steps + 1, cs =>
    (readKey cs).bind fun p => (readValue steps p.2).map fun q => ((p.1, q.1), q.2)

/-- The members after the first, up to the closing brace. -/
def readMembers : Nat → List Char → Option (List (String × Value) × List Char)
  | 0, _ => none
  | steps + 1, cs =>
    match skipSpace cs with
    | '\x7d' :: rest => some ([], rest)
    | ',' :: rest =>
      (readMember steps rest).bind fun p =>
        (readMembers steps p.2).map fun q => (p.1 :: q.1, q.2)
    | _ => none

end

/-- The value that a whole text spells. No value takes more steps than it has characters. -/
def Value.ofText? (text : String) : Option Value :=
  match readValue text.toList.length text.toList with
  | some (v, rest) => if (skipSpace rest).isEmpty then some v else none
  | none => none

variable {gap cs rest : List Char}

lemma readScalar_of_number_front {c : Char} (front : c = '-' ∨ c.isDigit = true)
    (cs : List Char) :
    readScalar (c :: cs) = (Number.scan (c :: cs)).map fun p => (.number p.1, p.2) := by
  rw [readScalar.eq_def]
  split
  case h_5 => rfl
  all_goals
    rename_i same
    rw [List.cons.injEq] at same
    rw [same.1] at front
    exact absurd front (by decide)

lemma readScalar_of_spells {v : Value} (spelled : Spells v cs) (scalar : v.IsScalar)
    (ends : Number.Ends rest) : readScalar (cs ++ rest) = some (v, rest) := by
  cases spelled with
  | null => rfl
  | yes => rfl
  | no => rfl
  | @number n cs number =>
    obtain ⟨c, tail, rfl, front⟩ := Number.exists_front_of_spells number
    have scanned := Number.scan_of_spells number (ends.endsAt n)
    rw [List.cons_append] at scanned ⊢
    rw [readScalar_of_number_front front, scanned, Option.map_some]
  | text text =>
    obtain ⟨inner, shape, found⟩ := unquote_of_spells_text text rest
    rw [shape, readScalar, found, Option.map_some, String.ofList_toList]
  | noItems blank => exact scalar.elim
  | items blank first later => exact scalar.elim
  | noMembers blank => exact scalar.elim
  | members blank first later => exact scalar.elim

lemma readValue_of_scalar {v : Value} (spelled : Spells v cs) (scalar : v.IsScalar)
    (ends : Number.Ends rest) (blank : IsGap gap) {steps : Nat} (enough : cs.length ≤ steps) :
    readValue steps (gap ++ (cs ++ rest)) = some (v, rest) := by
  obtain ⟨c, tail, shape, solid, noArray, noObject⟩ := exists_front_of_scalar spelled scalar
  have read := readScalar_of_spells spelled scalar ends
  subst shape
  cases steps with
  | zero => cases enough
  | succ steps =>
    rw [List.cons_append] at read ⊢
    rw [readValue, skipSpace_gap_cons blank solid]
    split
    · rename_i same
      exact absurd (List.cons.inj same).1 noArray
    · rename_i same
      exact absurd (List.cons.inj same).1 noObject
    · exact read

lemma readKey_of_spells_text {key : String} {name gap' : List Char} (blank : IsGap gap)
    (named : SpellsText key name) (blank' : IsGap gap') (rest : List Char) :
    readKey (gap ++ (name ++ (gap' ++ ':' :: rest))) = some (key, rest) := by
  obtain ⟨inner, front, found⟩ :=
    exists_skipSpace_of_spells_text blank named (gap' ++ ':' :: rest)
  simp only [readKey, front, found, passColon_gap blank', Option.bind_some, Option.map_some,
    String.ofList_toList]

mutual

/-- A value is read from whatever spells it, in no more steps than it has characters. -/
lemma readValue_of_spells : {v : Value} → {cs : List Char} → Spells v cs → {gap : List Char} →
    IsGap gap → {rest : List Char} → Number.Ends rest → {steps : Nat} → cs.length ≤ steps →
    readValue steps (gap ++ (cs ++ rest)) = some (v, rest)
  | _, _, .null, _, blank, _, ends, _, enough => readValue_of_scalar .null trivial ends blank enough
  | _, _, .yes, _, blank, _, ends, _, enough => readValue_of_scalar .yes trivial ends blank enough
  | _, _, .no, _, blank, _, ends, _, enough => readValue_of_scalar .no trivial ends blank enough
  | _, _, .number number, _, blank, _, ends, _, enough =>
    readValue_of_scalar (.number number) trivial ends blank enough
  | _, _, .text text, _, blank, _, ends, _, enough =>
    readValue_of_scalar (.text text) trivial ends blank enough
  | _, _, .noItems inside, _, blank, rest, _, steps + 1, _ => by
    have close : skipSpace (_ ++ ']' :: rest) = ']' :: rest :=
      skipSpace_gap_cons inside (by decide) rest
    rw [List.cons_append, List.append_assoc, List.singleton_append, readValue,
      skipSpace_gap_cons blank (by decide)]
    simp only [close]
  | _, _, .noMembers inside, _, blank, rest, _, steps + 1, _ => by
    have close : skipSpace (_ ++ '\x7d' :: rest) = '\x7d' :: rest :=
      skipSpace_gap_cons inside (by decide) rest
    rw [List.cons_append, List.append_assoc, List.singleton_append, readValue,
      skipSpace_gap_cons blank (by decide)]
    simp only [close]
  | _, _, @Spells.items gap' cs tail v vs inside first later, gap, blank, rest, _, steps + 1,
      enough => by
    simp only [List.length_cons, List.length_append] at enough
    obtain ⟨c, inner, shape, solid, noClose⟩ := exists_front_of_spells first
    have front := skipSpace_gap_cons inside solid (inner ++ (tail ++ rest))
    rw [← List.cons_append, ← shape] at front
    have item := readValue_of_spells first inside (ends_of_spells_items later rest)
      (show cs.length ≤ steps by omega)
    have items := readItems_of_spells later rest (show tail.length ≤ steps by omega)
    simp only [List.cons_append, List.append_assoc]
    rw [readValue, skipSpace_gap_cons blank (by decide)]
    simp only [front]
    split
    · rename_i same
      rw [shape, List.cons_append] at same
      exact absurd (List.cons.inj same).1 noClose
    · rw [item, Option.bind_some, items, Option.map_some]
  | _, _, @Spells.members gap' cs tail key v ms inside first later, gap, blank, rest, _, steps + 1,
      enough => by
    simp only [List.length_cons, List.length_append] at enough
    obtain ⟨inner, front⟩ := exists_skipSpace_of_spells_member inside first (tail ++ rest)
    have member := readMember_of_spells first inside (ends_of_spells_members later rest)
      (show cs.length ≤ steps by omega)
    have members := readMembers_of_spells later rest (show tail.length ≤ steps by omega)
    simp only [List.cons_append, List.append_assoc]
    rw [readValue, skipSpace_gap_cons blank (by decide)]
    simp only [front]
    rw [member, Option.bind_some, members, Option.map_some]
    rfl

lemma readItems_of_spells : {vs : List Value} → {cs : List Char} → SpellsItems vs cs →
    (rest : List Char) → {steps : Nat} → cs.length ≤ steps →
    readItems steps (cs ++ rest) = some (vs, rest)
  | _, _, .close blank, rest, steps, enough => by
    obtain _ | steps := steps
    · simp at enough
    · rw [List.append_assoc, List.singleton_append, readItems, skipSpace_gap_cons blank (by decide)]
      rfl
  | _, _, @SpellsItems.next gap gap' cs tail v vs blank blank' item later, rest, steps, enough => by
    obtain _ | steps := steps
    · simp at enough
    · simp only [List.length_cons, List.length_append] at enough
      have item := readValue_of_spells item blank' (ends_of_spells_items later rest)
        (show cs.length ≤ steps by omega)
      have items := readItems_of_spells later rest (show tail.length ≤ steps by omega)
      simp only [List.cons_append, List.append_assoc]
      rw [readItems, skipSpace_gap_cons blank (by decide)]
      simp only [item, Option.bind_some, items, Option.map_some]

lemma readMember_of_spells : {key : String} → {v : Value} → {cs : List Char} →
    SpellsMember key v cs → {gap : List Char} → IsGap gap → {rest : List Char} →
    Number.Ends rest → {steps : Nat} → cs.length ≤ steps →
    readMember steps (gap ++ (cs ++ rest)) = some ((key, v), rest)
  | _, _, _, @SpellsMember.member key v name gap' gap'' cs named inside inside' item, gap, blank,
      rest, ends, steps, enough => by
    obtain _ | steps := steps
    · simp at enough
    · simp only [List.length_cons, List.length_append] at enough
      have value := readValue_of_spells item inside' ends (show cs.length ≤ steps by omega)
      have name := readKey_of_spells_text blank named inside (gap'' ++ (cs ++ rest))
      simp only [List.cons_append, List.append_assoc]
      rw [readMember, name, Option.bind_some, value, Option.map_some]

lemma readMembers_of_spells : {ms : List (String × Value)} → {cs : List Char} →
    SpellsMembers ms cs → (rest : List Char) → {steps : Nat} → cs.length ≤ steps →
    readMembers steps (cs ++ rest) = some (ms, rest)
  | _, _, .close blank, rest, steps, enough => by
    obtain _ | steps := steps
    · simp at enough
    · rw [List.append_assoc, List.singleton_append, readMembers,
        skipSpace_gap_cons blank (by decide)]
      rfl
  | _, _, @SpellsMembers.next gap gap' cs tail key v ms blank blank' member later, rest, steps,
      enough => by
    obtain _ | steps := steps
    · simp at enough
    · simp only [List.length_cons, List.length_append] at enough
      have member := readMember_of_spells member blank' (ends_of_spells_members later rest)
        (show cs.length ≤ steps by omega)
      have members := readMembers_of_spells later rest (show tail.length ≤ steps by omega)
      simp only [List.cons_append, List.append_assoc]
      rw [readMembers, skipSpace_gap_cons blank (by decide)]
      simp only [member, Option.bind_some, members, Option.map_some]

end

lemma skipSpace_of_gap (blank : IsGap gap) : skipSpace gap = [] := by
  have skipped := skipSpace_gap blank []
  rwa [List.append_nil] at skipped

/-- Whatever spells a value is read as that value. -/
lemma Value.ofText?_of_spelledBy {v : Value} {text : String} (spelled : v.SpelledBy text) :
    ofText? text = some v := by
  cases spelled with
  | @within front cs back blank value blank' whole =>
    have ends : Number.Ends back := by
      have nothing : Number.Ends [] := fun _ none => by cases none
      simpa using ends_gap blank' nothing
    have enough : cs.length ≤ text.toList.length := by
      rw [whole, List.length_append, List.length_append]
      omega
    have read := readValue_of_spells value blank ends enough
    rw [← whole] at read
    simp only [ofText?, read, skipSpace_of_gap blank', List.isEmpty_nil, if_true]

end Countinghouse.Json
