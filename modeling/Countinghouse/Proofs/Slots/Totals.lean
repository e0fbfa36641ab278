import Countinghouse.Slots
import Mathlib.Algebra.BigOperators.Group.Multiset.Basic
import Mathlib.Data.Multiset.Bind

/-! Sums over what the places hold, and what filling or clearing a place does to them. -/
namespace Countinghouse.Slots

variable {α M : Type} [AddCommMonoid M]

def total (f : α → M) (s : Slots α) : M := (s.values.map f).sum

@[simp] lemma total_empty (f : α → M) : (empty : Slots α).total f = 0 := by
  simp [total, values, empty]

lemma sum_insertEntry (f : α → M) (name : String) (a : α) {es : List (String × α)}
    (order : es.Pairwise fun e f => e.1 < f.1) :
    ((insertEntry name a es).map fun e => f e.2).sum + (es.lookup name).elim 0 f =
      f a + (es.map fun e => f e.2).sum := by
  induction es with
  | nil => simp [insertEntry]
  | cons e es ih =>
    obtain ⟨n, b⟩ := e
    obtain ⟨head, tail⟩ := List.pairwise_cons.1 order
    rw [lookup_cons_eq_ite]
    by_cases before : name < n
    · have other : name ≠ n := fun same => String.lt_irrefl name (same ▸ before)
      have absent : es.lookup name = none :=
        lookup_eq_none_of_before fun g hg => String.lt_trans before (head g hg)
      simp [insertEntry, before, other, absent]
    · by_cases same : name = n
      · subst same
        rw [insertEntry_cons_self]
        simp [add_assoc, add_comm (f b)]
      · simp only [insertEntry, before, same, if_false, List.map_cons, List.sum_cons, add_assoc]
        rw [ih tail, add_left_comm]

/-- Filling a place adds what is put there and takes away what stood there before. -/
lemma total_put (f : α → M) (s : Slots α) (name : String) (a : α) :
    (s.put name a).total f + (s.find? name).elim 0 f = f a + s.total f := by
  simpa [total, values, put, find?, Function.comp_def] using sum_insertEntry f name a s.ascending

lemma sum_filter_name (f : α → M) (name : String) {es : List (String × α)}
    (order : es.Pairwise fun e f => e.1 < f.1) :
    ((es.filter (·.1 != name)).map fun e => f e.2).sum + (es.lookup name).elim 0 f =
      (es.map fun e => f e.2).sum := by
  induction es with
  | nil => simp
  | cons e es ih =>
    obtain ⟨n, b⟩ := e
    obtain ⟨head, tail⟩ := List.pairwise_cons.1 order
    rw [lookup_cons_eq_ite]
    by_cases same : name = n
    · subst same
      have kept : es.filter (·.1 != name) = es :=
        List.filter_eq_self.2 fun g hg => bne_iff_ne.2 fun he =>
          String.lt_irrefl name (he ▸ head g hg)
      simp [kept, add_comm]
    · have other : (n != name) = true := bne_iff_ne.2 (Ne.symm same)
      simp only [List.filter_cons_of_pos, other, same, if_false, List.map_cons, List.sum_cons,
        add_assoc]
      rw [ih tail]

/-- Clearing a place takes away what stood there. -/
lemma total_clear (f : α → M) (s : Slots α) (name : String) :
    (s.clear name).total f + (s.find? name).elim 0 f = s.total f := by
  simpa [total, values, clear, find?, Function.comp_def] using sum_filter_name f name s.ascending

lemma total_of_find? {s : Slots α} {name : String} {a : α} (f : α → M)
    (h : s.find? name = some a) : s.total f = (s.clear name).total f + f a := by
  have cleared := s.total_clear f name
  rw [h] at cleared
  exact cleared.symm

lemma total_put_eq [IsCancelAdd M] (f : α → M) (s : Slots α) (name : String) (a : α) :
    (s.put name a).total f = (s.clear name).total f + f a := by
  have filled := s.total_put f name a
  rw [← s.total_clear f name, ← add_assoc] at filled
  rw [add_right_cancel filled, add_comm]

lemma mem_values_of_find? {s : Slots α} {name : String} {a : α} (h : s.find? name = some a) :
    a ∈ s.values := by
  obtain ⟨l, r, split, -⟩ := List.lookup_eq_some_iff.1 h
  simp [values, split]

lemma lookup_eq_some_of_mem {name : String} {a : α} {es : List (String × α)}
    (order : es.Pairwise fun e f => e.1 < f.1) (there : (name, a) ∈ es) :
    es.lookup name = some a := by
  induction es with
  | nil => simp at there
  | cons e es ih =>
    obtain ⟨n, b⟩ := e
    obtain ⟨head, tail⟩ := List.pairwise_cons.1 order
    rw [lookup_cons_eq_ite]
    rcases List.mem_cons.1 there with same | there
    · obtain ⟨rfl, rfl⟩ := Prod.mk.inj same
      simp
    · have other : name ≠ n := fun he => String.lt_irrefl n (he ▸ head _ there)
      rw [if_neg other]
      exact ih tail there

/-- What the places hold is what can be found in them. -/
lemma mem_values_iff {s : Slots α} {a : α} : a ∈ s.values ↔ ∃ name, s.find? name = some a := by
  constructor
  · intro h
    obtain ⟨⟨name, b⟩, there, rfl⟩ := List.mem_map.1 h
    exact ⟨name, lookup_eq_some_of_mem s.ascending there⟩
  · rintro ⟨name, h⟩
    exact mem_values_of_find? h

lemma mem_total {β : Type} {f : α → Multiset β} {s : Slots α} {b : β} :
    b ∈ s.total f ↔ ∃ a ∈ s.values, b ∈ f a := by
  rw [total, ← Multiset.sum_coe]
  exact Multiset.mem_join.trans (by simp)

lemma total_coe {β : Type} (f : α → List β) (s : Slots α) :
    (s.total fun a => (↑(f a) : Multiset β)) = ↑(s.values.flatMap f) := by
  rw [total]
  induction s.values with
  | nil => rfl
  | cons a as ih => rw [List.map_cons, List.sum_cons, ih, List.flatMap_cons, Multiset.coe_add]

/-- What every place holds at most once is held as often as there are places that hold it. -/
lemma count_total {β : Type} [DecidableEq β] {f : α → List β} {s : Slots α}
    (once : ∀ a ∈ s.values, (f a).Nodup) (b : β) :
    (s.total fun a => (↑(f a) : Multiset β)).count b = s.values.countP fun a => b ∈ f a := by
  rw [total]
  generalize s.values = as at once ⊢
  induction as with
  | nil => rfl
  | cons a as ih =>
    obtain ⟨first, later⟩ := List.forall_mem_cons.1 once
    rw [List.map_cons, List.sum_cons, Multiset.count_add, ih later, List.countP_cons,
      Multiset.coe_count, first.count, Nat.add_comm]
    simp

end Countinghouse.Slots
