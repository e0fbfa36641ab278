import Countinghouse.Person
import Countinghouse.Proofs.Json.Supply

/-!
The shapes of people in JSON. A value forms a person if it is an object with the right values under
the known keys, each at most once, or an array of just these values; every spelling of such a value
is read as that person, and of no other value is anybody read.
-/
namespace Countinghouse

open Json

namespace Customer

lemma idField_fills :
    idField.Fills Lead.int64 fun id d => { d with id := some id } := fun _ _ => rfl

lemma nameField_fills :
    nameField.Fills Lead.string fun name d => { d with name := some name } := fun _ _ => rfl

lemma takesScalars : record.TakesScalars := by
  intro f field draft lead bracket
  simp only [record, List.mem_cons, List.not_mem_nil, or_false] at field
  rcases field with rfl | rfl <;> rcases bracket with rfl | rfl <;> exact ⟨_, rfl⟩

lemma complete_eq_ok_iff {d : Draft} {c : Customer} :
    d.complete = .ok c ↔ d.id = some c.id ∧ d.name = some c.name := by
  obtain ⟨id, name⟩ := d
  cases id with
  | none => simp [Draft.complete]
  | some id =>
    cases name with
    | none => simp [Draft.complete]
    | some name =>
      obtain ⟨_, _⟩ := c
      simp [Draft.complete]

lemma field?_of_unknown {key : String} (noId : key ≠ "id") (noName : key ≠ "name") :
    record.field? key = none := by
  simp [Record.field?, record, idField, nameField, Ne.symm noId, Ne.symm noName]

lemma ofMembers_eq_ok_iff {d : Draft} {ms : List (String × Value)} {c : Customer} :
    record.ofMembers d ms = .ok c ↔
      Supplied Lead.int64 d.id (valuesOf "id" ms) (some c.id) ∧
      Supplied Lead.string d.name (valuesOf "name" ms) (some c.name) := by
  induction ms generalizing d with
  | nil =>
    simp only [Record.ofMembers, valuesOf, List.filter_nil, List.map_nil, supplied_nil]
    exact complete_eq_ok_iff
  | cons m ms ih =>
    obtain ⟨key, v⟩ := m
    rw [Record.ofMembers]
    by_cases isId : key = "id"
    · subst isId
      rw [Record.absorb_bind_eq_ok_iff (f := idField) rfl idField_fills, valuesOf_cons_self,
        supplied_cons, valuesOf_cons_of_ne (by decide)]
      simp only [ih, idField, Option.isSome_eq_false_iff, Option.isNone_iff_eq_none]
      tauto
    · by_cases isName : key = "name"
      · subst isName
        rw [Record.absorb_bind_eq_ok_iff (f := nameField) rfl nameField_fills, valuesOf_cons_self,
          supplied_cons, valuesOf_cons_of_ne (by decide)]
        simp only [ih, nameField, Option.isSome_eq_false_iff, Option.isNone_iff_eq_none]
        tauto
      · rw [Record.absorb_of_unknown (field?_of_unknown isId isName), valuesOf_cons_of_ne isId,
          valuesOf_cons_of_ne isName]
        exact ih

lemma ofItems_eq_ok_iff {vs : List Value} {c : Customer} :
    record.ofItems 0 record.blank record.fields vs = .ok c ↔
      ∃ v, v.IsInteger c.id ∧ vs = [v, .text c.name] := by
  simp only [record, Record.ofItems_cons_eq_ok_iff idField_fills,
    Record.ofItems_cons_eq_ok_iff nameField_fills, Record.ofItems_nil_eq_ok_iff,
    Value.as_int64_eq_ok_iff, Value.as_string_eq_ok_iff, complete_eq_ok_iff, Option.some.injEq]
  constructor
  · rintro ⟨v, _, i, rfl, integer, _, _, name, rfl, rfl, rfl, rfl, rfl⟩
    exact ⟨v, integer, rfl⟩
  · rintro ⟨v, integer, rfl⟩
    exact ⟨v, _, c.id, rfl, integer, _, [], c.name, rfl, rfl, rfl, rfl, rfl⟩

/-- The values that form a customer. -/
inductive FormedBy (c : Customer) : Value → Prop
  | object {ms : List (String × Value)} {v : Value} (id : valuesOf "id" ms = [v])
      (integer : v.IsInteger c.id) (name : valuesOf "name" ms = [.text c.name]) :
      FormedBy c (.object ms)
  | array {v : Value} (integer : v.IsInteger c.id) : FormedBy c (.array [v, .text c.name])

lemma FormedBy.congr {c : Customer} {ms ms' : List (String × Value)}
    (agree : AgreeOn ["id", "name"] ms ms') (formed : c.FormedBy (.object ms)) :
    c.FormedBy (.object ms') := by
  cases formed with
  | object id integer name =>
    exact .object ((agree.eq_singleton_iff (by decide)).1 id) integer
      ((agree.eq_singleton_iff (by decide)).1 name)

lemma formedBy_array_iff {c : Customer} {ms : List (String × Value)} {id name : Value}
    (oneId : valuesOf "id" ms = [id]) (oneName : valuesOf "name" ms = [name]) :
    c.FormedBy (.array [id, name]) ↔ c.FormedBy (.object ms) := by
  constructor
  · intro formed
    cases formed with
    | array integer => exact .object oneId integer oneName
  · intro formed
    cases formed with
    | object alone integer named =>
      rw [oneId] at alone
      rw [oneName] at named
      cases alone
      cases named
      exact .array integer

lemma ofValue_eq_ok_iff {v : Value} {c : Customer} : record.ofValue v = .ok c ↔ c.FormedBy v := by
  constructor
  · intro taken
    cases v with
    | object ms =>
      obtain ⟨id, name⟩ := ofMembers_eq_ok_iff.1 taken
      obtain ⟨v, only, integer⟩ := supplied_none_some_iff.1 id
      obtain ⟨w, named, string⟩ := supplied_none_some_iff.1 name
      rw [Value.as_string_eq_ok_iff.1 string] at named
      exact .object only (Value.as_int64_eq_ok_iff.1 integer) named
    | array vs =>
      obtain ⟨v, integer, rfl⟩ := ofItems_eq_ok_iff.1 taken
      exact .array integer
    | _ => exact absurd taken (Record.ofValue_of_scalar_ne_ok trivial)
  · intro formed
    cases formed with
    | object id integer name =>
      exact ofMembers_eq_ok_iff.2 ⟨
        supplied_none_some_iff.2 ⟨_, id, Value.as_int64_eq_ok_iff.2 integer⟩,
        supplied_none_some_iff.2 ⟨_, name, Value.as_string_eq_ok_iff.2 rfl⟩⟩
    | array integer => exact ofItems_eq_ok_iff.2 ⟨_, integer, rfl⟩

lemma decode_eq (text : String) : codec.decode text = readAll record.read text := rfl

end Customer

namespace Teller

lemma idField_fills :
    idField.Fills Lead.int64 fun id d => { d with id := some id } := fun _ _ => rfl

lemma nameField_fills :
    nameField.Fills Lead.string fun name d => { d with name := some name } := fun _ _ => rfl

lemma deskField_fills :
    deskField.Fills Lead.optionalString fun desk d => { d with desk := some desk } := fun _ _ => rfl

lemma takesScalars : record.TakesScalars := by
  intro f field draft lead bracket
  simp only [record, List.mem_cons, List.not_mem_nil, or_false] at field
  rcases field with rfl | rfl | rfl <;> rcases bracket with rfl | rfl <;> exact ⟨_, rfl⟩

lemma complete_eq_ok_iff {d : Draft} {t : Teller} :
    d.complete = .ok t ↔ d.id = some t.id ∧ d.name = some t.name ∧ d.desk.join = t.desk := by
  obtain ⟨id, name, desk⟩ := d
  cases id with
  | none => simp [Draft.complete]
  | some id =>
    cases name with
    | none => simp [Draft.complete]
    | some name =>
      obtain ⟨_, _, _⟩ := t
      simp [Draft.complete]

lemma field?_of_unknown {key : String} (noId : key ≠ "id") (noName : key ≠ "name")
    (noDesk : key ≠ "desk") : record.field? key = none := by
  simp [Record.field?, record, idField, nameField, deskField, Ne.symm noId, Ne.symm noName,
    Ne.symm noDesk]

lemma ofMembers_eq_ok_iff {d : Draft} {ms : List (String × Value)} {t : Teller} :
    record.ofMembers d ms = .ok t ↔
      Supplied Lead.int64 d.id (valuesOf "id" ms) (some t.id) ∧
      Supplied Lead.string d.name (valuesOf "name" ms) (some t.name) ∧
      ∃ desk, Supplied Lead.optionalString d.desk (valuesOf "desk" ms) desk ∧
        desk.join = t.desk := by
  induction ms generalizing d with
  | nil =>
    simp only [Record.ofMembers, valuesOf, List.filter_nil, List.map_nil, supplied_nil,
      exists_eq_left']
    exact complete_eq_ok_iff
  | cons m ms ih =>
    obtain ⟨key, v⟩ := m
    rw [Record.ofMembers]
    by_cases isId : key = "id"
    · subst isId
      rw [Record.absorb_bind_eq_ok_iff (f := idField) rfl idField_fills, valuesOf_cons_self,
        supplied_cons, valuesOf_cons_of_ne (by decide), valuesOf_cons_of_ne (by decide)]
      simp only [ih, idField, Option.isSome_eq_false_iff, Option.isNone_iff_eq_none]
      tauto
    by_cases isName : key = "name"
    · subst isName
      rw [Record.absorb_bind_eq_ok_iff (f := nameField) rfl nameField_fills, valuesOf_cons_self,
        supplied_cons, valuesOf_cons_of_ne (by decide), valuesOf_cons_of_ne (by decide)]
      simp only [ih, nameField, Option.isSome_eq_false_iff, Option.isNone_iff_eq_none]
      tauto
    by_cases isDesk : key = "desk"
    · subst isDesk
      rw [Record.absorb_bind_eq_ok_iff (f := deskField) rfl deskField_fills, valuesOf_cons_self,
        valuesOf_cons_of_ne (by decide), valuesOf_cons_of_ne (by decide)]
      simp only [ih, deskField, supplied_cons, Option.isSome_eq_false_iff,
        Option.isNone_iff_eq_none]
      tauto
    rw [Record.absorb_of_unknown (field?_of_unknown isId isName isDesk), valuesOf_cons_of_ne isId,
      valuesOf_cons_of_ne isName, valuesOf_cons_of_ne isDesk]
    exact ih

lemma ofItems_eq_ok_iff {vs : List Value} {t : Teller} :
    record.ofItems 0 record.blank record.fields vs = .ok t ↔
      ∃ v, v.IsInteger t.id ∧ vs = [v, .text t.name, .optionalText t.desk] := by
  simp only [record, Record.ofItems_cons_eq_ok_iff idField_fills,
    Record.ofItems_cons_eq_ok_iff nameField_fills, Record.ofItems_cons_eq_ok_iff deskField_fills,
    Record.ofItems_nil_eq_ok_iff, Value.as_int64_eq_ok_iff, Value.as_string_eq_ok_iff,
    Value.as_optionalString_eq_ok_iff, complete_eq_ok_iff, Option.some.injEq, Option.join_some]
  constructor
  · rintro ⟨v, _, i, rfl, integer, _, _, name, rfl, rfl, _, _, desk, rfl, rfl, rfl, rfl, rfl, rfl⟩
    exact ⟨v, integer, rfl⟩
  · rintro ⟨v, integer, rfl⟩
    exact ⟨v, _, t.id, rfl, integer, _, _, t.name, rfl, rfl, _, [], t.desk, rfl, rfl, rfl, rfl, rfl,
      rfl⟩

/-- The values that form a teller: an object may go without a desk, an array may not. -/
inductive FormedBy (t : Teller) : Value → Prop
  | object {ms : List (String × Value)} {v : Value} (id : valuesOf "id" ms = [v])
      (integer : v.IsInteger t.id) (name : valuesOf "name" ms = [.text t.name])
      (desk : valuesOf "desk" ms = [.optionalText t.desk] ∨
        valuesOf "desk" ms = [] ∧ t.desk = none) :
      FormedBy t (.object ms)
  | array {v : Value} (integer : v.IsInteger t.id) :
      FormedBy t (.array [v, .text t.name, .optionalText t.desk])

lemma FormedBy.congr {t : Teller} {ms ms' : List (String × Value)}
    (agree : AgreeOn ["id", "name", "desk"] ms ms') (formed : t.FormedBy (.object ms)) :
    t.FormedBy (.object ms') := by
  cases formed with
  | object id integer name desk =>
    refine .object ((agree.eq_singleton_iff (by decide)).1 id) integer
      ((agree.eq_singleton_iff (by decide)).1 name) ?_
    rwa [← agree.eq_singleton_iff (by decide), ← agree.eq_nil_iff (by decide)]

lemma formedBy_array_iff {t : Teller} {ms : List (String × Value)} {id name desk : Value}
    (oneId : valuesOf "id" ms = [id]) (oneName : valuesOf "name" ms = [name])
    (mayDesk : valuesOf "desk" ms = [desk] ∨ valuesOf "desk" ms = [] ∧ desk = .null) :
    t.FormedBy (.array [id, name, desk]) ↔ t.FormedBy (.object ms) := by
  constructor
  · intro formed
    cases formed with
    | array integer =>
      refine .object oneId integer oneName ?_
      rcases mayDesk with one | ⟨none, null⟩
      · exact .inl one
      · refine .inr ⟨none, ?_⟩
        cases desk : t.desk with
        | none => rfl
        | some d =>
          rw [desk] at null
          cases null
  · intro formed
    cases formed with
    | object alone integer named placed =>
      rw [oneId] at alone
      rw [oneName] at named
      cases alone
      cases named
      have same : desk = .optionalText t.desk := by
        rcases mayDesk with one | ⟨none, rfl⟩
        · rcases placed with given | ⟨absent, -⟩
          · exact (List.cons.inj (one.symm.trans given)).1
          · cases one.symm.trans absent
        · rcases placed with given | ⟨-, absent⟩
          · cases none.symm.trans given
          · rw [absent]
            rfl
      rw [same]
      exact .array integer

lemma supplied_desk_iff {vs : List Value} {desk : Option String} :
    (∃ found, Supplied Lead.optionalString none vs found ∧ found.join = desk) ↔
      vs = [.optionalText desk] ∨ vs = [] ∧ desk = none := by
  constructor
  · rintro ⟨found, supplied, rfl⟩
    cases supplied with
    | kept => exact .inr ⟨rfl, rfl⟩
    | given reads => exact .inl (by rw [Value.as_optionalString_eq_ok_iff.1 reads]; rfl)
  · rintro (rfl | ⟨rfl, rfl⟩)
    · exact ⟨some desk, .given (Value.as_optionalString_eq_ok_iff.2 rfl), rfl⟩
    · exact ⟨none, .kept none, rfl⟩

lemma ofValue_eq_ok_iff {v : Value} {t : Teller} : record.ofValue v = .ok t ↔ t.FormedBy v := by
  constructor
  · intro taken
    cases v with
    | object ms =>
      obtain ⟨id, name, desk⟩ := ofMembers_eq_ok_iff.1 taken
      obtain ⟨v, only, integer⟩ := supplied_none_some_iff.1 id
      obtain ⟨w, named, string⟩ := supplied_none_some_iff.1 name
      rw [Value.as_string_eq_ok_iff.1 string] at named
      exact .object only (Value.as_int64_eq_ok_iff.1 integer) named (supplied_desk_iff.1 desk)
    | array vs =>
      obtain ⟨v, integer, rfl⟩ := ofItems_eq_ok_iff.1 taken
      exact .array integer
    | _ => exact absurd taken (Record.ofValue_of_scalar_ne_ok trivial)
  · intro formed
    cases formed with
    | object id integer name desk =>
      exact ofMembers_eq_ok_iff.2 ⟨
        supplied_none_some_iff.2 ⟨_, id, Value.as_int64_eq_ok_iff.2 integer⟩,
        supplied_none_some_iff.2 ⟨_, name, Value.as_string_eq_ok_iff.2 rfl⟩,
        supplied_desk_iff.2 desk⟩
    | array integer => exact ofItems_eq_ok_iff.2 ⟨_, integer, rfl⟩

lemma decode_eq (text : String) : codec.decode text = readAll record.read text := rfl

end Teller

/-- A text is read as a person exactly if the value that it spells forms that person, however it is
spelt. So the order of the keys and whatever stands under other keys are of no account, and an
object is read as the array of its parts. -/
theorem people_read_by_shape {j : Value} {text : String} (spelled : j.SpelledBy text) :
    (∀ c, Customer.codec.decode text = .ok c ↔ c.FormedBy j) ∧
    (∀ t, Teller.codec.decode text = .ok t ↔ t.FormedBy j) ∧
    (∀ ms ms' text', j = .object ms → (Value.object ms').SpelledBy text' →
      (AgreeOn ["id", "name"] ms ms' →
        ∀ c, Customer.codec.decode text' = .ok c ↔ Customer.codec.decode text = .ok c) ∧
      (AgreeOn ["id", "name", "desk"] ms ms' →
        ∀ t, Teller.codec.decode text' = .ok t ↔ Teller.codec.decode text = .ok t)) ∧
    (∀ ms id name, j = .object ms → valuesOf "id" ms = [id] → valuesOf "name" ms = [name] →
      (∀ text', (Value.array [id, name]).SpelledBy text' →
        ∀ c, Customer.codec.decode text' = .ok c ↔ Customer.codec.decode text = .ok c) ∧
      (∀ desk text', (valuesOf "desk" ms = [desk] ∨ valuesOf "desk" ms = [] ∧ desk = .null) →
        (Value.array [id, name, desk]).SpelledBy text' →
        ∀ t, Teller.codec.decode text' = .ok t ↔ Teller.codec.decode text = .ok t)) := by
  have customers {j : Value} {text : String} (spelled : j.SpelledBy text) (c : Customer) :
      Customer.codec.decode text = .ok c ↔ c.FormedBy j := by
    rw [Customer.decode_eq, Record.readAll_of_spelledBy Customer.takesScalars spelled]
    exact Customer.ofValue_eq_ok_iff
  have tellers {j : Value} {text : String} (spelled : j.SpelledBy text) (t : Teller) :
      Teller.codec.decode text = .ok t ↔ t.FormedBy j := by
    rw [Teller.decode_eq, Record.readAll_of_spelledBy Teller.takesScalars spelled]
    exact Teller.ofValue_eq_ok_iff
  refine ⟨customers spelled, tellers spelled, ?_, ?_⟩
  · rintro ms ms' text' rfl spelled'
    refine ⟨fun agree c => ?_, fun agree t => ?_⟩
    · rw [customers spelled, customers spelled']
      exact ⟨.congr agree.symm, .congr agree⟩
    · rw [tellers spelled, tellers spelled']
      exact ⟨.congr agree.symm, .congr agree⟩
  · rintro ms id name rfl oneId oneName
    refine ⟨fun text' spelled' c => ?_, fun desk text' mayDesk spelled' t => ?_⟩
    · rw [customers spelled, customers spelled', Customer.formedBy_array_iff oneId oneName]
    · rw [tellers spelled, tellers spelled', Teller.formedBy_array_iff oneId oneName mayDesk]

/-- One key is spelt with an escape, one character takes two units, and other keys repeat. -/
theorem escaped_person_read :
    let members : List (String × Value) :=
      [("x", .array [.object [("id", .null)]]), ("name", .text "😀"), ("x", .null),
        ("id", .int (-7))]
    let text := "\x7b\"x\":[\x7b\"id\":null\x7d] ,\n\"n\\u0061me\":\"\\ud83D\\uDE00\"" ++
      ",\"x\":null,\"id\" :-7\x7d"
    (Value.object members).SpelledBy text ∧
    Customer.codec.decode text = .ok ⟨-7, "😀"⟩ ∧
    Teller.codec.decode text = .ok ⟨-7, "😀", none⟩ ∧
    (∀ text', (Value.array [.int (-7), .text "😀"]).SpelledBy text' →
      Customer.codec.decode text' = .ok ⟨-7, "😀"⟩) := by
  intro members text
  have none : IsGap [] := by simp [IsGap]
  have blank : IsGap [' '] := by simp [IsGap]
  have line : IsGap ['\n'] := by simp [IsGap]
  have unit : SpellsUnit 'a'.toNat ['\\', 'u', '0', '0', '6', '1'] := .hex (by decide) (by decide)
  have high : SpellsUnit 0xD83D ['\\', 'u', 'd', '8', '3', 'D'] := .hex (by decide) (by decide)
  have low : SpellsUnit 0xDE00 ['\\', 'u', 'D', 'E', '0', '0'] := .hex (by decide) (by decide)
  have plain (s : String) : SpellsText s _ := .quoted (spells_escape s.toList)
  have name : SpellsText "name" _ :=
    .quoted (.cons (spells_escapeChar 'n') (.cons (.unit unit) (spells_escape ['m', 'e'])))
  have face : SpellsText "😀" _ := .quoted (.cons (.pair (by decide) high low) .nil)
  have inner : Spells (.object [("id", .null)]) _ :=
    .members none (.member (plain "id") none none .null) (.close none)
  have first : SpellsMember "x" (.array [.object [("id", .null)]]) _ :=
    .member (plain "x") none none (.items none inner (.close none))
  have second : SpellsMember "name" (.text "😀") _ := .member name none none (.text face)
  have third : SpellsMember "x" .null _ := .member (plain "x") none none .null
  have fourth : SpellsMember "id" (.int (-7)) _ :=
    .member (plain "id") blank none (.number (Number.spells_ofInt (-7)))
  have whole : Spells (.object members) _ :=
    .members none first (.next blank line second (.next none none third
      (.next none none fourth (.close none))))
  have spelled : (Value.object members).SpelledBy text := .within none whole none (by decide)
  have integer : (Value.int (-7)).IsInteger (-7) := ⟨_, rfl, ⟨rfl, rfl, by decide, by decide⟩⟩
  have id : valuesOf "id" members = [.int (-7)] := by simp [members, valuesOf]
  have named : valuesOf "name" members = [.text "😀"] := by simp [members, valuesOf]
  have noDesk : valuesOf "desk" members = [] := by simp [members, valuesOf]
  obtain ⟨customer, teller, -, asArray⟩ := people_read_by_shape spelled
  have read := (customer ⟨-7, "😀"⟩).2 (.object id integer named)
  refine ⟨spelled, read, (teller _).2 (.object id integer named (.inr ⟨noDesk, rfl⟩)), ?_⟩
  intro text' spelled'
  exact ((asArray members _ _ rfl id named).1 text' spelled' _).2 read

end Countinghouse
