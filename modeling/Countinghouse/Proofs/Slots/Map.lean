import Countinghouse.Slots
import Mathlib.Tactic.Common

/-! The same places with something else in each, or in one of them. -/
namespace Countinghouse.Slots

variable {α β : Type}

def map (f : α → β) (s : Slots α) : Slots β :=
  ⟨s.entries.map fun e => (e.1, f e.2), s.ascending.map _ fun _ _ before => before⟩

lemma find?_map (f : α → β) (s : Slots α) (name : String) :
    (s.map f).find? name = (s.find? name).map f := by
  simp only [find?, map]
  induction s.entries with
  | nil => rfl
  | cons e es ih =>
    obtain ⟨n, b⟩ := e
    rw [List.map_cons, lookup_cons_eq_ite, lookup_cons_eq_ite, ih]
    split <;> rfl

lemma map_insertEntry (f : α → β) (name : String) (a : α) (es : List (String × α)) :
    (insertEntry name a es).map (fun e => (e.1, f e.2)) =
      insertEntry name (f a) (es.map fun e => (e.1, f e.2)) := by
  induction es with
  | nil => rfl
  | cons e es ih =>
    simp only [insertEntry, List.map_cons]
    split
    · rfl
    · split
      · rfl
      · rw [List.map_cons, ih]

lemma map_put (f : α → β) (s : Slots α) (name : String) (a : α) :
    (s.put name a).map f = (s.map f).put name (f a) :=
  ext_entries (map_insertEntry f name a s.entries)

lemma map_clear (f : α → β) (s : Slots α) (name : String) :
    (s.clear name).map f = (s.map f).clear name := by
  apply ext_entries
  simp only [clear, map, List.filter_map]
  rfl

lemma insertEntry_insertEntry (name : String) (a b : α) (es : List (String × α)) :
    insertEntry name b (insertEntry name a es) = insertEntry name b es := by
  induction es with
  | nil => exact insertEntry_cons_self name a b []
  | cons e es ih =>
    obtain ⟨n, c⟩ := e
    by_cases before : name < n
    · simp only [insertEntry, before, if_true, insertEntry_cons_self]
    · by_cases same : name = n
      · subst same
        rw [insertEntry_cons_self, insertEntry_cons_self, insertEntry_cons_self]
      · simp only [insertEntry, before, same, if_false, ih]

@[simp] lemma put_put (s : Slots α) (name : String) (a b : α) :
    (s.put name a).put name b = s.put name b :=
  ext_entries (insertEntry_insertEntry name a b s.entries)

end Countinghouse.Slots
