import Countinghouse.Proofs.Json.Reading

/-!
Objects that are not closed yet. A text that begins with an opening brace and some members is read
up to their end, and there the reader has absorbed just these members; what it says of the next
thing does not depend on what stands behind that.
-/
namespace Countinghouse.Json

/-- What stands in front of a member: a gap, and a comma unless it is the first member. -/
inductive SpellsLink : Bool → List Char → Prop
  | first {gap : List Char} (blank : IsGap gap) : SpellsLink true gap
  | later {gap gap' : List Char} (blank : IsGap gap) (blank' : IsGap gap') :
      SpellsLink false (gap ++ ',' :: gap')

/-- Members one after the other, without the brace that closes the object. -/
inductive SpellsOpen : Bool → List (String × Value) → List Char → Prop
  | nil {isFirst : Bool} : SpellsOpen isFirst [] []
  | cons {isFirst : Bool} {link cs rest : List Char} {key : String} {v : Value}
      {ms : List (String × Value)} (linked : SpellsLink isFirst link)
      (member : SpellsMember key v cs) (later : SpellsOpen false ms rest) :
      SpellsOpen isFirst ((key, v) :: ms) (link ++ (cs ++ rest))

/-- The text begins with an opening brace and these members; `tail` is all that stands behind them.
-/
inductive Begins (text : String) (ms : List (String × Value)) (tail : List Char) : Prop
  | within {gap cs : List Char} (blank : IsGap gap) (members : SpellsOpen true ms cs)
      (whole : text.toList = gap ++ '\x7b' :: (cs ++ tail)) : Begins text ms tail

/-- What tells the lead of a value, whatever stands behind it: a bracket that opens, or the whole of
a scalar unless what stands behind it continues a number. -/
inductive SpellsLead : Lead → List Char → List Char → Prop
  | array {rest : List Char} : SpellsLead .array ['['] rest
  | object {rest : List Char} : SpellsLead .object ['\x7b'] rest
  | scalar {v : Value} {lead : Lead} {cs rest : List Char} (scalar : v.IsScalar)
      (found : v.lead? = some lead) (spelled : Spells v cs) (ends : v.EndsAt rest) :
      SpellsLead lead cs rest

variable {gap link name cs rest : List Char} {key : String} {ms : List (String × Value)}

lemma nextTurn_of_link {isFirst : Bool} (linked : SpellsLink isFirst link)
    (named : SpellsText key name) (rest : List Char) :
    nextTurn isFirst (link ++ (name ++ rest)) = some (.key key rest) := by
  cases linked with
  | first blank =>
    obtain ⟨inner, front, found⟩ := exists_skipSpace_of_spells_text blank named rest
    simp only [nextTurn, front]
    show nextKey ('"' :: inner) = _
    rw [nextKey, skipSpace_cons (by decide)]
    simp only [found, Option.map_some, String.ofList_toList]
  | @later gap gap' blank blank' =>
    rw [List.append_assoc, List.cons_append, nextTurn, skipSpace_gap_cons blank (by decide)]
    exact Record.nextKey_of_spells_text blank' named rest

lemma ends_of_link (linked : SpellsLink false link) (rest : List Char) :
    Number.Ends (link ++ rest) := by
  cases linked with
  | later blank blank' =>
    rw [List.append_assoc]
    exact ends_gap blank (ends_cons (by decide) _)

lemma ends_of_open (later : SpellsOpen false ms cs) (ends : Number.Ends rest) :
    Number.Ends (cs ++ rest) := by
  cases later with
  | nil => exact ends
  | cons linked member later =>
    rw [List.append_assoc]
    exact ends_of_link linked _

lemma Lead.read_of_spellsLead {lead : Lead} (blank : IsGap gap)
    (spelled : SpellsLead lead cs rest) :
    ∃ behind, Lead.read (gap ++ (cs ++ rest)) = some (lead, behind) := by
  cases spelled with
  | array =>
    refine ⟨rest, ?_⟩
    rw [List.singleton_append, Lead.read, skipSpace_gap_cons blank (by decide)]
    rfl
  | object =>
    refine ⟨rest, ?_⟩
    rw [List.singleton_append, Lead.read, skipSpace_gap_cons blank (by decide)]
    rfl
  | scalar scalar found spelled ends =>
    refine ⟨rest, ?_⟩
    rw [Lead.read_of_spells blank spelled scalar ends, found, Option.map_some]

namespace Record

variable {δ α : Type} {r : Record δ α} {draft : δ} {f : Field δ}

/-- All members for a draft, one after the other. -/
def absorbAll (r : Record δ α) (draft : δ) : List (String × Value) → Except Problem δ
  | [] => .ok draft
  | (key, v) :: ms => (r.absorb draft key v).bind (r.absorbAll · ms)

/-- Behind the members the reading goes on with the draft that has absorbed them. -/
lemma members_of_open (scalars : r.TakesScalars) {isFirst : Bool}
    (spelled : SpellsOpen isFirst ms cs) (ends : ms ≠ [] → Number.Ends rest) (draft : δ) :
    r.members isFirst draft (cs ++ rest) =
      (r.absorbAll draft ms).bind (r.members (isFirst && ms.isEmpty) · rest) := by
  induction spelled generalizing draft with
  | nil => simp [absorbAll, Except.bind]
  | @cons isFirst link cs tail key v ms linked member later ih =>
    have behind : Number.Ends (tail ++ rest) :=
      ends_of_open later (ends (List.cons_ne_nil _ _))
    cases member with
    | @member _ _ name gap gap' cs named blank blank' item =>
      have turn := nextTurn_of_link linked named (gap ++ ':' :: (gap' ++ (cs ++ (tail ++ rest))))
      simp only [List.append_assoc, List.cons_append]
      rw [members_of_spells scalars blank blank' item behind turn, absorbAll]
      cases r.absorb draft key v with
      | error p => rfl
      | ok draft =>
        have go := ih (fun _ => ends (List.cons_ne_nil _ _)) draft
        rw [Bool.false_and] at go
        rw [List.isEmpty_cons, Bool.and_false]
        exact go

lemma read_of_begins {text : String} {tail : List Char} (scalars : r.TakesScalars)
    (begins : Begins text ms tail) (ends : ms ≠ [] → Number.Ends tail) {draft : δ}
    (absorbed : r.absorbAll r.blank ms = .ok draft) :
    r.read text.toList = r.members ms.isEmpty draft tail := by
  cases begins with
  | @within gap cs blank members whole =>
    have opened : Lead.read (gap ++ ('\x7b' :: (cs ++ tail))) = some (.object, cs ++ tail) := by
      rw [Lead.read, skipSpace_gap_cons blank (by decide)]
      rfl
    rw [whole, read_of_lead opened]
    simp only
    rw [members_of_open scalars members ends, absorbed, Bool.true_and]
    rfl

/-- A key whose field is filled ends the reading. -/
lemma members_of_filled {isFirst : Bool} (linked : SpellsLink isFirst link)
    (named : SpellsText key name) (known : r.field? key = some f) (filled : f.isFilled draft) :
    r.members isFirst draft (link ++ (name ++ rest)) = .error (.duplicate f.key) := by
  rw [members_of_turn (nextTurn_of_link linked named rest), known]
  simp only [if_pos filled]

/-- A lead that does not suit its field ends the reading. -/
lemma members_of_refused {isFirst : Bool} {gap' : List Char} {lead : Lead} {p : Problem}
    (linked : SpellsLink isFirst link) (named : SpellsText key name) (known : r.field? key = some f)
    (empty : f.isFilled draft = false) (blank : IsGap gap) (blank' : IsGap gap')
    (spelled : SpellsLead lead cs rest) (refused : f.fill lead draft = .error p) :
    r.members isFirst draft (link ++ (name ++ (gap ++ ':' :: (gap' ++ (cs ++ rest))))) =
      .error p := by
  obtain ⟨behind, found⟩ := Lead.read_of_spellsLead blank' spelled
  have here : leadAfterColon (gap ++ ':' :: (gap' ++ (cs ++ rest))) = some (lead, behind) := by
    rw [leadAfterColon, passColon_gap blank, Option.bind_some, found]
  rw [members_of_turn (nextTurn_of_link linked named _), known]
  simp only [empty, here, fillFound, refused]
  rfl

end Record
end Countinghouse.Json
