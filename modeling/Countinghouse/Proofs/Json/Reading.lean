import Countinghouse.Proofs.Json.Spelling

/-!
Records taken from values. To read a text that spells a value is to take the record from the value,
whatever way it is spelt; a field takes its value by the lead, and no lead of an array or object
suits it.
-/
namespace Countinghouse.Json

variable {δ α : Type}

/-- A value for a field; no field takes a number too large for a double. -/
def Field.take (f : Field δ) (v : Value) (draft : δ) : Except Problem δ :=
  match v.lead? with
  | some lead => f.fill lead draft
  | none => .error .malformed

namespace Record

/-- A member for a draft: one of an unknown key changes nothing. -/
def absorb (r : Record δ α) (draft : δ) (key : String) (v : Value) : Except Problem δ :=
  match r.field? key with
  | none => .ok draft
  | some f => if f.isFilled draft then .error (.duplicate f.key) else f.take v draft

def ofMembers (r : Record δ α) (draft : δ) : List (String × Value) → Except Problem α
  | [] => r.complete draft
  | (key, v) :: ms => (r.absorb draft key v).bind (r.ofMembers · ms)

def ofItems (r : Record δ α) (count : Nat) (draft : δ) :
    List (Field δ) → List Value → Except Problem α
  | [], [] => r.complete draft
  | [], _ :: _ => .error .malformed
  | _ :: _, [] => .error (.tooShort count r.title r.fields.length)
  | f :: fs, v :: vs => (f.take v draft).bind (r.ofItems (count + 1) · fs vs)

def ofValue (r : Record δ α) : Value → Except Problem α
  | .object ms => r.ofMembers r.blank ms
  | .array vs => r.ofItems 0 r.blank r.fields vs
  | v =>
    match v.lead? with
    | some lead => .error (.wrongType lead r.title)
    | none => .error .malformed

/-- No field takes an array or an object. -/
def TakesScalars (r : Record δ α) : Prop :=
  ∀ f ∈ r.fields, ∀ draft lead, lead = .array ∨ lead = .object → ∃ p, f.fill lead draft = .error p

variable {r : Record δ α} {draft : δ} {gap cs rest : List Char} {v : Value} {f : Field δ}

/-- The lead that was found fills a field, and what stands behind it is left. -/
def fillFound (f : Field δ) (draft : δ) : Option (Lead × List Char) → Except Problem (δ × List Char)
  | none => .error .malformed
  | some (lead, rest) => (f.fill lead draft).map (·, rest)

lemma fillFound_of_spells (scalars : r.TakesScalars) (field : f ∈ r.fields) (blank : IsGap gap)
    (spelled : Spells v cs) (ends : Number.Ends rest) (draft : δ) :
    fillFound f draft (Lead.read (gap ++ (cs ++ rest))) = (f.take v draft).map (·, rest) := by
  by_cases scalar : v.IsScalar
  · rw [Lead.read_of_spells blank spelled scalar (ends.value v), Field.take]
    cases v.lead? with
    | none => rfl
    | some lead => rfl
  · obtain ⟨inner, lead, is_lead, bracket, found⟩ :=
      Lead.exists_read_of_spells blank spelled scalar rest
    obtain ⟨p, refused⟩ := scalars f field draft lead bracket
    simp only [found, fillFound, Field.take, is_lead, refused]
    rfl

lemma mem_fields_of_field? {key : String} (known : r.field? key = some f) : f ∈ r.fields :=
  List.mem_of_find?_eq_some known

lemma nextKey_of_spells_text {key : String} (blank : IsGap gap) (named : SpellsText key cs)
    (rest : List Char) : nextKey (gap ++ (cs ++ rest)) = some (.key key rest) := by
  obtain ⟨inner, front, found⟩ := exists_skipSpace_of_spells_text blank named rest
  simp only [nextKey, front, found, Option.map_some, String.ofList_toList]

/-- Behind its key a member is passed over or fills its field. -/
lemma members_of_turn {isFirst : Bool} {text behind : List Char} {key : String}
    (turn : nextTurn isFirst text = some (.key key behind)) :
    r.members isFirst draft text =
      match r.field? key with
      | none =>
        match passAfterColon behind with
        | none => .error .malformed
        | some rest => r.members false draft rest
      | some f =>
        if f.isFilled draft then .error (.duplicate f.key)
        else (fillFound f draft (leadAfterColon behind)).bind fun p => r.members false p.1 p.2 := by
  rw [members]
  split
  all_goals
    rename_i there
    rw [turn] at there
    cases there
  cases r.field? key with
  | none =>
    simp only
    split <;> rename_i there <;> simp only [there]
  | some f =>
    simp only
    split
    · rfl
    · split
      · rename_i there
        simp only [there, fillFound]
        rfl
      · rename_i lead rest there
        simp only [there, fillFound]
        cases f.fill lead draft <;> rfl

/-- A member is absorbed, and the reading goes on behind it. -/
lemma members_of_spells {isFirst : Bool} {text : List Char} {key : String}
    (scalars : r.TakesScalars) {gap' : List Char} (blank : IsGap gap) (blank' : IsGap gap')
    (spelled : Spells v cs) (ends : Number.Ends rest)
    (turn : nextTurn isFirst text = some (.key key (gap ++ ':' :: (gap' ++ (cs ++ rest))))) :
    r.members isFirst draft text = (r.absorb draft key v).bind (r.members false · rest) := by
  have passed : passAfterColon (gap ++ ':' :: (gap' ++ (cs ++ rest))) = some rest := by
    rw [passAfterColon, passColon_gap blank, Option.bind_some,
      passValue_of_spells blank' spelled ends]
  have lead : leadAfterColon (gap ++ ':' :: (gap' ++ (cs ++ rest))) =
      Lead.read (gap' ++ (cs ++ rest)) := by
    rw [leadAfterColon, passColon_gap blank, Option.bind_some]
  rw [members_of_turn turn, absorb]
  cases known : r.field? key with
  | none => simp only [passed, Except.bind]
  | some f =>
    by_cases filled : f.isFilled draft
    · simp only [if_pos filled]
      rfl
    · simp only [if_neg filled, lead]
      rw [fillFound_of_spells scalars (mem_fields_of_field? known) blank' spelled ends]
      cases f.take v draft <;> rfl

lemma members_of_spells_member {isFirst : Bool} {text : List Char} {key : String}
    (scalars : r.TakesScalars) (spelled : SpellsMember key v cs) (ends : Number.Ends rest)
    (turn : nextTurn isFirst text = nextKey (gap ++ (cs ++ rest))) (blank : IsGap gap) :
    r.members isFirst draft text = (r.absorb draft key v).bind (r.members false · rest) := by
  cases spelled with
  | member named blank' blank'' item =>
    refine members_of_spells scalars blank' blank'' item ends ?_
    rw [turn, List.append_assoc, nextKey_of_spells_text blank named]
    simp only [List.append_assoc, List.cons_append]

lemma members_of_close {isFirst : Bool} (blank : IsGap gap) :
    r.members isFirst draft (gap ++ '\x7d' :: rest) = (r.complete draft).map (·, rest) := by
  have turn : nextTurn isFirst (gap ++ '\x7d' :: rest) = some (.close rest) := by
    rw [nextTurn, skipSpace_gap_cons blank (by decide)]
    rfl
  rw [members]
  split
  all_goals
    rename_i there
    rw [turn] at there
    cases there
  rfl

lemma members_of_spells_members {ms : List (String × Value)} (scalars : r.TakesScalars)
    (spelled : SpellsMembers ms cs) (draft : δ) (rest : List Char) :
    r.members false draft (cs ++ rest) = (r.ofMembers draft ms).map (·, rest) := by
  induction ms generalizing cs draft with
  | nil =>
    cases spelled with
    | close blank =>
      rw [List.append_assoc, List.singleton_append]
      exact members_of_close blank
  | cons m ms ih =>
    cases spelled with
    | @next gap gap' cs tail key v _ blank blank' member later =>
      have turn : nextTurn false (gap ++ ',' :: (gap' ++ (cs ++ tail)) ++ rest) =
          nextKey (gap' ++ (cs ++ (tail ++ rest))) := by
        simp only [List.append_assoc, List.cons_append]
        rw [nextTurn, skipSpace_gap_cons blank (by decide)]
        rfl
      rw [members_of_spells_member scalars member (ends_of_spells_members later rest) turn blank',
        ofMembers]
      cases r.absorb draft key v with
      | error p => rfl
      | ok draft => exact ih later draft

lemma elements_cons {count : Nat} {front : List Char} {c : Char} {text : List Char}
    (shape : skipSpace text = c :: front) (item : c ≠ ']') (fs : List (Field δ)) :
    r.elements count draft (f :: fs) text =
      (fillFound f draft (elementLead (count == 0) (c :: front))).bind
        fun p => r.elements (count + 1) p.1 fs p.2 := by
  rw [elements]
  split
  · rename_i there
    rw [shape] at there
    exact absurd (List.cons.inj there).1 item
  · rw [shape]
    split
    · rename_i there
      rw [there]
      rfl
    · rename_i lead rest there
      rw [there]
      simp only [fillFound]
      cases f.fill lead draft <;> rfl

lemma elements_close {count : Nat} {text : List Char} (shape : skipSpace text = ']' :: rest)
    (fs : List (Field δ)) :
    r.elements count draft fs text = (r.ofItems count draft fs []).map (·, rest) := by
  cases fs with
  | nil =>
    rw [elements, shape]
    rfl
  | cons f fs =>
    rw [elements, shape]
    rfl

lemma elements_of_spells_items {vs : List Value} {fs : List (Field δ)} {count : Nat}
    (scalars : r.TakesScalars) (declared : ∀ f ∈ fs, f ∈ r.fields) (begun : count ≠ 0)
    (spelled : SpellsItems vs cs) (draft : δ) (rest : List Char) :
    r.elements count draft fs (cs ++ rest) = (r.ofItems count draft fs vs).map (·, rest) := by
  induction vs generalizing cs fs count draft with
  | nil =>
    cases spelled with
    | close blank =>
      apply elements_close
      rw [List.append_assoc, List.singleton_append, skipSpace_gap_cons blank (by decide)]
  | cons v vs ih =>
    cases spelled with
    | @next gap gap' cs tail _ _ blank blank' item later =>
      have shape : skipSpace (gap ++ ',' :: (gap' ++ (cs ++ tail)) ++ rest) =
          ',' :: (gap' ++ (cs ++ (tail ++ rest))) := by
        simp only [List.append_assoc, List.cons_append]
        exact skipSpace_gap_cons blank (by decide) _
      cases fs with
      | nil =>
        rw [elements, shape]
        rfl
      | cons f fs =>
        have lead : elementLead (count == 0) (',' :: (gap' ++ (cs ++ (tail ++ rest)))) =
            Lead.read (gap' ++ (cs ++ (tail ++ rest))) := by
          rw [elementLead, if_neg (by simpa using begun), skipSpace_cons (by decide)]
          rfl
        rw [elements_cons shape (by decide), lead, fillFound_of_spells scalars
          (declared f List.mem_cons_self) blank' item (ends_of_spells_items later rest), ofItems]
        cases f.take v draft with
        | error p => rfl
        | ok draft =>
          exact ih (fun g member => declared g (List.mem_cons_of_mem f member)) (by omega) later
            draft

lemma read_of_lead {lead : Lead} {text : List Char} (found : Lead.read text = some (lead, rest)) :
    r.read text =
      match lead with
      | .object => r.members true r.blank rest
      | .array => r.elements 0 r.blank r.fields rest
      | lead => .error (.wrongType lead r.title) := by
  cases lead <;> simp only [read, found]

lemma ofValue_of_scalar (r : Record δ α) (scalar : v.IsScalar) :
    r.ofValue v =
      match v.lead? with
      | some lead => .error (.wrongType lead r.title)
      | none => .error .malformed := by
  cases v with
  | array vs => exact scalar.elim
  | object ms => exact scalar.elim
  | _ => rfl

lemma read_of_scalar (blank : IsGap gap) (spelled : Spells v cs) (scalar : v.IsScalar)
    (ends : Number.Ends rest) :
    r.read (gap ++ (cs ++ rest)) = (r.ofValue v).map (·, rest) := by
  have found := Lead.read_of_spells blank spelled scalar (ends.value v)
  rw [ofValue_of_scalar r scalar]
  cases lead : v.lead? with
  | none =>
    rw [lead] at found
    simp only [read, found]
    rfl
  | some l =>
    rw [lead] at found
    rw [read_of_lead found]
    cases v with
    | array vs => exact scalar.elim
    | object ms => exact scalar.elim
    | number n =>
      obtain ⟨m, -, rfl⟩ := Option.map_eq_some_iff.1 lead
      rfl
    | _ =>
      cases lead
      rfl

lemma read_of_array {vs : List Value} (scalars : r.TakesScalars) (blank : IsGap gap)
    (spelled : Spells (.array vs) cs) (rest : List Char) :
    r.read (gap ++ (cs ++ rest)) = (r.ofItems 0 r.blank r.fields vs).map (·, rest) := by
  have opened (inner : List Char) : Lead.read (gap ++ ('[' :: inner)) = some (.array, inner) := by
    rw [Lead.read, skipSpace_gap_cons blank (by decide)]
    rfl
  cases spelled with
  | @noItems gap' blank' =>
    rw [List.cons_append, read_of_lead (opened _)]
    apply elements_close
    rw [List.append_assoc, List.singleton_append, skipSpace_gap_cons blank' (by decide)]
  | @items gap' cs tail v vs blank' first later =>
    obtain ⟨c, inner, shape, solid, item⟩ := exists_front_of_spells first
    have front : skipSpace (gap' ++ (cs ++ (tail ++ rest))) = c :: (inner ++ (tail ++ rest)) := by
      rw [shape, List.cons_append, skipSpace_gap_cons blank' solid]
    simp only [List.cons_append, List.append_assoc]
    rw [read_of_lead (opened _)]
    simp only
    cases declared : r.fields with
    | nil =>
      rw [elements, front]
      split
      · rename_i there
        exact absurd (List.cons.inj there).1 item
      · rfl
    | cons f fs =>
      have known : ∀ g ∈ f :: fs, g ∈ r.fields := fun g member => declared ▸ member
      have ends := ends_of_spells_items later rest
      have lead : elementLead (0 == 0) (c :: (inner ++ (tail ++ rest))) =
          Lead.read ([] ++ (cs ++ (tail ++ rest))) := by
        rw [shape]
        rfl
      rw [elements_cons front item, lead, fillFound_of_spells scalars (known f List.mem_cons_self)
        (by simp [IsGap]) first ends, ofItems]
      cases f.take v r.blank with
      | error p => rfl
      | ok draft =>
        exact elements_of_spells_items scalars
          (fun g member => known g (List.mem_cons_of_mem f member))
          (by decide) later draft rest

lemma read_of_object {ms : List (String × Value)} (scalars : r.TakesScalars) (blank : IsGap gap)
    (spelled : Spells (.object ms) cs) (rest : List Char) :
    r.read (gap ++ (cs ++ rest)) = (r.ofMembers r.blank ms).map (·, rest) := by
  have opened (inner : List Char) :
      Lead.read (gap ++ ('\x7b' :: inner)) = some (.object, inner) := by
    rw [Lead.read, skipSpace_gap_cons blank (by decide)]
    rfl
  cases spelled with
  | @noMembers gap' blank' =>
    rw [List.cons_append, read_of_lead (opened _), List.append_assoc, List.singleton_append]
    exact members_of_close blank'
  | @members gap' cs tail key v ms blank' first later =>
    obtain ⟨inner, front⟩ := exists_skipSpace_of_spells_member blank' first (tail ++ rest)
    have turn : nextTurn true (gap' ++ (cs ++ (tail ++ rest))) =
        nextKey (gap' ++ (cs ++ (tail ++ rest))) := by
      simp only [nextTurn, front]
      show nextKey ('"' :: inner) = _
      rw [nextKey, nextKey, front, skipSpace_cons (by decide)]
    simp only [List.cons_append, List.append_assoc]
    rw [read_of_lead (opened _)]
    simp only
    rw [members_of_spells_member scalars first (ends_of_spells_members later rest) turn blank',
      ofMembers]
    cases r.absorb r.blank key v with
    | error p => rfl
    | ok draft => exact members_of_spells_members scalars later draft rest

/-- A record is read from a text as it is taken from the value that the text spells. -/
lemma readAll_of_spelledBy {text : String} (scalars : r.TakesScalars) (spelled : v.SpelledBy text) :
    readAll r.read text = r.ofValue v := by
  cases spelled with
  | @within front cs back blank value blank' whole =>
    have space : skipSpace back = [] := by
      have nothing := skipSpace_gap blank' []
      rwa [List.append_nil] at nothing
    have ends : Number.Ends back := by
      have none : Number.Ends (back ++ []) := ends_gap blank' fun c first => by cases first
      rwa [List.append_nil] at none
    have found : r.read text.toList = (r.ofValue v).map (·, back) := by
      rw [whole]
      by_cases scalar : v.IsScalar
      · exact read_of_scalar blank value scalar ends
      · cases v with
        | array vs => exact read_of_array scalars blank value back
        | object ms => exact read_of_object scalars blank value back
        | _ => exact absurd trivial scalar
    rw [readAll, found]
    cases r.ofValue v with
    | error p => rfl
    | ok a =>
      simp only [Except.map, space]
      rfl

end Record
end Countinghouse.Json
