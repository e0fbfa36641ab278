import Countinghouse.Time.Calendar
import Mathlib.Algebra.GroupWithZero.Nat
import Mathlib.Tactic.Common

/-!
Days and dates. Every day, counted from the first of January 1970, is the day of exactly the date
that it is split into, and that date is one of the calendar.
-/
namespace Countinghouse.Time

def yearLength (year : Int) : Nat := if isLeap year then 366 else 365

lemma isLeap_iff (year : Int) :
    isLeap year = true ↔ year % 4 = 0 ∧ (year % 100 ≠ 0 ∨ year % 400 = 0) := by
  simp [isLeap]

lemma foldl_add (n : Nat) (lengths : List Nat) : lengths.foldl Nat.add n = n + lengths.sum := by
  induction lengths generalizing n with
  | nil => rfl
  | cons length lengths ih =>
    rw [List.foldl_cons, ih, List.sum_cons, Nat.add_eq, Nat.add_assoc]

lemma sum_monthLengths (year : Int) : (monthLengths year).sum = yearLength year := by
  rw [monthLengths, yearLength]
  split <;> rfl

/-- A day falls in a cycle of four centuries, and there in a century, a cycle of four years and a
year; only the last of these at each level may be a day longer. -/
lemma exists_parts (days : Int) : ∃ q c f y d : Int,
    splitYears days = (400 * q + 100 * c + 4 * f + y + 1, d.toNat) ∧
    days = 146097 * q + 36524 * c + 1461 * f + 365 * y + d ∧
    (0 ≤ c ∧ c ≤ 3) ∧ (0 ≤ f ∧ f ≤ 24) ∧ (0 ≤ y ∧ y ≤ 3) ∧ (0 ≤ d ∧ d ≤ 365) ∧
    (d = 365 → y = 3 ∧ (f = 24 → c = 3)) := by
  refine ⟨_, _, _, _, _, rfl, ?_⟩
  omega

lemma daysBefore_parts {q c f y : Int} (centuries : 0 ≤ c ∧ c ≤ 3) (fours : 0 ≤ f ∧ f ≤ 24)
    (years : 0 ≤ y ∧ y ≤ 3) :
    daysBefore (400 * q + 100 * c + 4 * f + y + 1) =
      146097 * q + 36524 * c + 1461 * f + 365 * y := by
  rw [daysBefore]
  omega

lemma isLeap_parts {q c f : Int} (fours : 0 ≤ f ∧ f ≤ 24) (century : f = 24 → c = 3) :
    isLeap (400 * q + 100 * c + 4 * f + 3 + 1) = true := by
  rw [isLeap_iff]
  omega

lemma splitYears_spec (days : Int) :
    daysBefore (splitYears days).1 + (splitYears days).2 = days ∧
    (splitYears days).2 < yearLength (splitYears days).1 := by
  obtain ⟨q, c, f, y, d, split, parts, centuries, fours, years, inYear, last⟩ := exists_parts days
  rw [split]
  refine ⟨?_, ?_⟩
  · rw [daysBefore_parts centuries fours years, Int.toNat_of_nonneg inYear.1]
    exact parts.symm
  · rw [yearLength]
    by_cases extra : d = 365
    · obtain ⟨rfl, century⟩ := last extra
      rw [isLeap_parts fours century, extra, if_pos rfl]
      exact (by decide : (365 : Int).toNat < 366)
    · split <;> omega

lemma splitMonths_spec (month : Nat) {day : Nat} {lengths : List Nat} (within : day < lengths.sum) :
    ∃ i n rest, splitMonths month day lengths = (month + i, rest + 1) ∧ lengths[i]? = some n ∧
      rest < n ∧ (lengths.take i).sum + rest = day := by
  induction lengths generalizing month day with
  | nil => exact absurd within (Nat.not_lt_zero day)
  | cons length lengths ih =>
    rw [splitMonths]
    by_cases first : day < length
    · exact ⟨0, length, day, by rw [if_pos first]; rfl, rfl, first, Nat.zero_add day⟩
    · rw [List.sum_cons] at within
      obtain ⟨i, n, rest, split, found, inMonth, total⟩ :=
        ih (month + 1) (show day - length < lengths.sum by omega)
      refine ⟨i + 1, n, rest, ?_, found, inMonth, ?_⟩
      · rw [if_neg first, split, Nat.add_assoc, Nat.add_comm 1]
      · rw [List.take_succ_cons, List.sum_cons]
        omega

namespace Date

variable (days : Int)

/-- A day is that many days into its month, and its month that many days into its year. -/
lemma ofDays_spec : ∃ year i n rest, ofDays days = ⟨year, 1 + i, rest + 1⟩ ∧
    (monthLengths year)[i]? = some n ∧ rest < n ∧
    daysBefore year + ((monthLengths year).take i).sum + rest = days + 719162 := by
  obtain ⟨total, inYear⟩ := splitYears_spec (days + 719162)
  rw [← sum_monthLengths] at inYear
  obtain ⟨i, n, rest, split, found, inMonth, count⟩ := splitMonths_spec 1 inYear
  refine ⟨(splitYears (days + 719162)).1, i, n, rest, ?_, found, inMonth, ?_⟩
  · rw [ofDays]
    simp only [split]
  · omega

lemma valid_ofDays : (ofDays days).Valid := by
  obtain ⟨year, i, n, rest, split, found, inMonth, -⟩ := ofDays_spec days
  rw [split]
  refine ⟨Nat.le_add_right 1 i, Nat.le_add_left 1 rest, n, ?_, inMonth⟩
  rwa [Nat.add_sub_cancel_left]

lemma toDays_ofDays : (ofDays days).toDays = days := by
  obtain ⟨year, i, n, rest, split, -, -, count⟩ := ofDays_spec days
  rw [split, toDays]
  simp only [foldl_add, Nat.add_sub_cancel_left]
  omega

end Date
end Countinghouse.Time
