import Mathlib.Algebra.BigOperators.Group.List.Basic
import Mathlib.Algebra.GroupWithZero.Nat
import Mathlib.Algebra.Order.Group.Multiset
import Mathlib.Data.Multiset.Basic

/-! Lists in which an element is changed or left out, or each is changed where it stands. -/
namespace Countinghouse

variable {α β : Type}

lemma mapIdx_const (f : α → β) (l : List α) : l.mapIdx (fun _ a => f a) = l.map f := by
  apply List.ext_getElem?
  intro i
  simp

lemma mapIdx_ite (i : Nat) (f : α → α) (l : List α) :
    (l.mapIdx fun k a => if k = i then f a else a) = l.modify i f := by
  apply List.ext_getElem?
  intro k
  rw [List.getElem?_mapIdx, List.getElem?_modify]
  cases l[k]? with
  | none => rfl
  | some a => by_cases at_i : i = k <;> simp [at_i, Ne.symm]

lemma map_mapIdx_of_comm {f : Nat → α → α} {g : α → β} {k : Nat → β → β}
    (comm : ∀ i a, g (f i a) = k i (g a)) (l : List α) :
    (l.mapIdx f).map g = (l.map g).mapIdx k := by
  apply List.ext_getElem?
  intro i
  simp [Function.comp_def, comm]

lemma map_mapIdx_of_eq {f : Nat → α → α} {g : α → β} (same : ∀ i a, g (f i a) = g a)
    (l : List α) : (l.mapIdx f).map g = l.map g := by
  apply List.ext_getElem?
  intro i
  simp [Function.comp_def, same]

/-- An element that is found and the elements left without it are all. -/
lemma perm_of_find? {p : α → Bool} {a : α} {l : List α} (found : l.find? p = some a) :
    List.Perm l (l.eraseP p ++ [a]) := by
  induction l with
  | nil => cases found
  | cons b l ih =>
    by_cases hit : p b
    · rw [List.find?_cons_of_pos hit] at found
      cases found
      rw [List.eraseP_cons_of_pos hit]
      exact (List.perm_append_singleton a l).symm
    · rw [List.find?_cons_of_neg hit] at found
      rw [List.eraseP_cons_of_neg hit]
      exact (ih found).cons b

lemma modify_of_getElem? {l : List α} {i : Nat} {a : α} (here : l[i]? = some a) (f : α → α) :
    l.modify i f = l.set i (f a) := by
  apply List.ext_getElem?
  intro j
  rw [List.getElem?_modify, List.getElem?_set']
  by_cases at_i : i = j
  · subst at_i
    simp [here]
  · simp [at_i]

lemma set_of_getElem? {l : List α} {i : Nat} {a : α} (here : l[i]? = some a) : l.set i a = l := by
  obtain ⟨there, rfl⟩ := List.getElem?_eq_some_iff.1 here
  exact List.set_getElem_self there

lemma map_set_of_eq {g : α → β} {l : List α} {i : Nat} {a b : α} (here : l[i]? = some a)
    (same : g b = g a) : (l.set i b).map g = l.map g := by
  rw [List.map_set, same]
  apply set_of_getElem?
  rw [List.getElem?_map, here, Option.map_some]

lemma sum_eraseIdx {l : List Nat} {i a : Nat} (here : l[i]? = some a) :
    (l.eraseIdx i).sum + a = l.sum := by
  obtain ⟨there, rfl⟩ := List.getElem?_eq_some_iff.1 here
  rw [← (List.getElem_cons_eraseIdx_perm there).sum_eq, List.sum_cons, Nat.add_comm]

lemma sum_set {l : List Nat} {i a : Nat} (here : l[i]? = some a) (b : Nat) :
    (l.set i b).sum + a = l.sum + b := by
  obtain ⟨there, -⟩ := List.getElem?_eq_some_iff.1 here
  have placed : (l.set i b)[i]? = some b := by simp [there]
  rw [← sum_eraseIdx placed, List.eraseIdx_set_eq, ← sum_eraseIdx here, Nat.add_right_comm]

lemma coe_flatMap_eraseIdx {l : List α} {i : Nat} {a : α} (here : l[i]? = some a)
    (f : α → List β) :
    (↑(l.flatMap f) : Multiset β) = ↑((l.eraseIdx i).flatMap f) + ↑(f a) := by
  obtain ⟨there, rfl⟩ := List.getElem?_eq_some_iff.1 here
  have left := (List.getElem_cons_eraseIdx_perm there).flatMap_right f
  rw [List.flatMap_cons] at left
  rw [add_comm]
  exact Multiset.coe_eq_coe.2 left.symm

lemma coe_flatMap_set {l : List α} {i : Nat} {a : α} (here : l[i]? = some a) (b : α)
    (f : α → List β) :
    (↑((l.set i b).flatMap f) : Multiset β) = ↑((l.eraseIdx i).flatMap f) + ↑(f b) := by
  obtain ⟨there, -⟩ := List.getElem?_eq_some_iff.1 here
  have placed : (l.set i b)[i]? = some b := by simp [there]
  rw [coe_flatMap_eraseIdx placed, List.eraseIdx_set_eq]

end Countinghouse
