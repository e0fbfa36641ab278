import Countinghouse.Register
import Mathlib.Algebra.Order.Group.Multiset
import Mathlib.Data.Multiset.Count

/-! The counts of a register, measured against the references that are really held. -/
namespace Countinghouse.Register

/-- Every handle is counted as often as it occurs among these references. -/
def Counts (r : Register) (held : Multiset Handle) : Prop := ∀ h, r.refs h = held.count h

lemma counts_empty : empty.Counts 0 := fun h => (Multiset.count_zero h).symm

lemma isSome_person?_iff {r : Register} {h : Handle} :
    (r.person? h).isSome ↔ h.index < r.cells.length := by
  simp [person?]

lemma refs_retain {r : Register} {h : Handle} (known : (r.person? h).isSome) (k : Handle) :
    (r.retain h).refs k = r.refs k + if k = h then 1 else 0 := by
  have there := isSome_person?_iff.1 known
  have same : k = h ↔ h.index = k.index := by
    cases h; cases k; simp [eq_comm]
  simp only [refs, retain, List.getElem?_modify, same]
  by_cases e : h.index = k.index
  · rw [← e, List.getElem?_eq_getElem there]
    simp
  · simp [e]

lemma refs_release (r : Register) (h k : Handle) :
    (r.release h).refs k = r.refs k - if k = h then 1 else 0 := by
  have same : k = h ↔ h.index = k.index := by
    cases h; cases k; simp [eq_comm]
  simp only [refs, release, List.getElem?_modify, same]
  cases r.cells[k.index]? with
  | none => simp
  | some s => by_cases e : h.index = k.index <;> simp [e]

/-- Nobody holds a handle that was not given out. -/
lemma refs_of_length_le {r : Register} {h : Handle} (fresh : r.cells.length ≤ h.index) :
    r.refs h = 0 := by
  simp [refs, fresh]

lemma refs_enter (r : Register) (p : Person) (k : Handle) :
    (r.enter p).2.refs k = r.refs k + if k = (r.enter p).1 then 1 else 0 := by
  have same : k = (r.enter p).1 ↔ k.index = r.cells.length := by
    cases k; simp [enter]
  simp only [same]
  rcases Nat.lt_trichotomy k.index r.cells.length with old | new | beyond
  · simp [refs, enter, List.getElem?_append_left old, Nat.ne_of_lt old]
  · simp [refs, enter, new]
  · have after : r.cells.length + 1 ≤ k.index := beyond
    rw [refs_of_length_le (Nat.le_of_lt beyond), if_neg (Nat.ne_of_gt beyond)]
    exact refs_of_length_le (by simpa [enter] using after)

lemma person?_enter (r : Register) (p : Person) {k : Handle} (known : (r.person? k).isSome) :
    (r.enter p).2.person? k = r.person? k := by
  have there := isSome_person?_iff.1 known
  simp [person?, enter, List.getElem?_append_left there]

@[simp] lemma person?_retainAll (r : Register) (hs : List Handle) (k : Handle) :
    (r.retainAll hs).person? k = r.person? k := by
  induction hs generalizing r with
  | nil => rfl
  | cons h hs ih => exact (ih (r.retain h)).trans (person?_retain r h k)

@[simp] lemma person?_releaseAll (r : Register) (hs : List Handle) (k : Handle) :
    (r.releaseAll hs).person? k = r.person? k := by
  induction hs generalizing r with
  | nil => rfl
  | cons h hs ih => exact (ih (r.release h)).trans (person?_release r h k)

namespace Counts

variable {r : Register} {held : Multiset Handle}

lemma retainAll (counts : r.Counts held) {hs : List Handle}
    (known : ∀ h ∈ hs, (r.person? h).isSome) : (r.retainAll hs).Counts (held + ↑hs) := by
  induction hs generalizing r held with
  | nil => simpa [Register.retainAll] using counts
  | cons h hs ih =>
    have first : (r.retain h).Counts (held + {h}) := by
      intro k
      rw [refs_retain (known h List.mem_cons_self), counts k, Multiset.count_add,
        Multiset.count_singleton]
    have rest := ih first fun k later => by
      rw [person?_retain]
      exact known k (List.mem_cons_of_mem h later)
    rwa [add_assoc, Multiset.singleton_add, Multiset.cons_coe] at rest

lemma releaseAll {hs : List Handle} (counts : r.Counts (held + ↑hs)) :
    (r.releaseAll hs).Counts held := by
  induction hs generalizing r with
  | nil => simpa [Register.releaseAll] using counts
  | cons h hs ih =>
    apply ih
    intro k
    rw [refs_release, counts k, ← Multiset.cons_coe, ← Multiset.singleton_add,
      add_left_comm, Multiset.count_add, Multiset.count_singleton, Nat.add_sub_cancel_left]

lemma enter (counts : r.Counts held) (p : Person) :
    (r.enter p).2.Counts ({(r.enter p).1} + held) := by
  intro k
  rw [refs_enter, counts k, Multiset.count_add, Multiset.count_singleton, Nat.add_comm]

lemma update (counts : r.Counts held) (h : Handle) (f : Person → Person) :
    (r.update h f).Counts held := by
  intro k
  rw [refs_update, counts k]

/-- What is counted before and after tells how each count has changed. -/
lemma refs_add_count {r' : Register} {rest before after : Multiset Handle}
    (first : r.Counts (rest + before)) (next : r'.Counts (rest + after)) (h : Handle) :
    r'.refs h + before.count h = r.refs h + after.count h := by
  rw [first h, next h, Multiset.count_add, Multiset.count_add, Nat.add_right_comm]

end Counts
end Countinghouse.Register
