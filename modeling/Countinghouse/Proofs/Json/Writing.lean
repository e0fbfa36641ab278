import Countinghouse.Proofs.Json.Number
import Countinghouse.Proofs.Json.Quoted

/-! Written values. What is written of a value is one of the texts that spell it. -/
namespace Countinghouse.Json.Value

lemma spells_write_text (s : String) : Spells (text s) (text s).write := by
  rw [write, quote]
  exact .text (.quoted (spells_escape s.toList))

lemma spells_write_int (i : Int) : Spells (int i) (int i).write := by
  rw [int, write]
  exact .number (Number.spells_ofInt i)

lemma spells_write_optionalText (s : Option String) :
    Spells (optionalText s) (optionalText s).write := by
  cases s with
  | none => exact .null
  | some s => exact spells_write_text s

lemma spells_write_bool (b : Bool) : Spells (bool b) (bool b).write := by
  cases b with
  | false => exact .no
  | true => exact .yes

lemma isGap_nil : IsGap [] := by
  intro c member
  cases member

/-- A written member has no gap around its colon. -/
lemma spells_write_member (key : String) {v : Value} (value : Spells v v.write) :
    SpellsMember key v (quote key.toList ++ ':' :: v.write) :=
  .member (.quoted (spells_escape key.toList)) isGap_nil isGap_nil value

lemma spells_writeMembers {ms : List (String × Value)} (values : ∀ m ∈ ms, Spells m.2 m.2.write) :
    SpellsMembers ms (writeMembers ms) := by
  induction ms with
  | nil => exact .close isGap_nil
  | cons m ms ih =>
    obtain ⟨key, v⟩ := m
    have first := spells_write_member key (values (key, v) List.mem_cons_self)
    have later := ih fun m member => values m (List.mem_cons_of_mem _ member)
    have spelled := SpellsMembers.next isGap_nil isGap_nil first later
    simpa only [writeMembers, List.nil_append, List.append_assoc, List.cons_append] using spelled

lemma spells_write_object {ms : List (String × Value)} (values : ∀ m ∈ ms, Spells m.2 m.2.write) :
    Spells (object ms) (object ms).write := by
  cases ms with
  | nil => exact .noMembers isGap_nil
  | cons m ms =>
    obtain ⟨key, v⟩ := m
    have first := spells_write_member key (values (key, v) List.mem_cons_self)
    have later := spells_writeMembers fun m member => values m (List.mem_cons_of_mem _ member)
    have spelled := Spells.members isGap_nil first later
    simpa only [write, List.nil_append, List.append_assoc, List.cons_append] using spelled

lemma spells_writeItems {vs : List Value} (values : ∀ v ∈ vs, Spells v v.write) :
    SpellsItems vs (writeItems vs) := by
  induction vs with
  | nil => exact .close isGap_nil
  | cons v vs ih =>
    have first := values v List.mem_cons_self
    have later := ih fun v member => values v (List.mem_cons_of_mem _ member)
    have spelled := SpellsItems.next isGap_nil isGap_nil first later
    simpa only [writeItems, List.nil_append] using spelled

lemma spells_write_array {vs : List Value} (values : ∀ v ∈ vs, Spells v v.write) :
    Spells (array vs) (array vs).write := by
  cases vs with
  | nil => exact .noItems isGap_nil
  | cons v vs =>
    have first := values v List.mem_cons_self
    have later := spells_writeItems fun v member => values v (List.mem_cons_of_mem _ member)
    have spelled := Spells.items isGap_nil first later
    simpa only [write, List.nil_append] using spelled

lemma spelledBy_toText {v : Value} (spelled : Spells v v.write) : v.SpelledBy v.toText := by
  refine .within isGap_nil spelled isGap_nil ?_
  rw [toText, String.toList_ofList, List.nil_append, List.append_nil]

end Countinghouse.Json.Value
