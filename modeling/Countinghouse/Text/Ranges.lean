/-! Classes of characters as lists of ranges of their numbers. -/
namespace Countinghouse.Text

/-- Whether `n` lies in one of the ranges, which begin in ascending order. -/
def isWithin (n : Nat) : List (Nat × Nat) → Bool
  | [] => false
  | r :: rs => r.1 ≤ n && (n ≤ r.2 || isWithin n rs)

theorem isWithin_cons (n : Nat) (r : Nat × Nat) (rs : List (Nat × Nat)) :
    isWithin n (r :: rs) = (decide (r.1 ≤ n) && (decide (n ≤ r.2) || isWithin n rs)) := rfl

theorem exists_range_of_isWithin {n : Nat} {rs : List (Nat × Nat)} (h : isWithin n rs = true) :
    ∃ r ∈ rs, r.1 ≤ n ∧ n ≤ r.2 := by
  induction rs with
  | nil => simp [isWithin] at h
  | cons r rs ih =>
    simp only [isWithin_cons, Bool.and_eq_true, Bool.or_eq_true, decide_eq_true_eq] at h
    rcases h with ⟨low, high | later⟩
    · exact ⟨r, List.mem_cons_self, low, high⟩
    · obtain ⟨s, hs, bounds⟩ := ih later
      exact ⟨s, List.mem_cons_of_mem r hs, bounds⟩

end Countinghouse.Text
