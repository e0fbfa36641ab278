/-! The Gregorian calendar, extended over all years; the year before year 1 is year 0. -/
namespace Countinghouse.Time

structure Date where
  year : Int
  month : Nat
  day : Nat
deriving DecidableEq, Repr

def isLeap (year : Int) : Bool := year % 4 = 0 && (year % 100 ≠ 0 || year % 400 = 0)

def monthLengths (year : Int) : List Nat :=
  [31, if isLeap year then 29 else 28, 31, 30, 31, 30, 31, 31, 30, 31, 30, 31]

/-- Days from the first day of year 1 to the first day of `year`. -/
def daysBefore (year : Int) : Int :=
  365 * (year - 1) + (year - 1) / 4 - (year - 1) / 100 + (year - 1) / 400

namespace Date

def Valid (d : Date) : Prop :=
  1 ≤ d.month ∧ 1 ≤ d.day ∧ ∃ n, (monthLengths d.year)[d.month - 1]? = some n ∧ d.day ≤ n

/-- The length of the month, zero for a month that does not exist. -/
def monthLength (d : Date) : Nat :=
  if d.month = 0 then 0 else (monthLengths d.year).getD (d.month - 1) 0

theorem valid_iff (d : Date) : d.Valid ↔ 1 ≤ d.day ∧ d.day ≤ d.monthLength := by
  unfold Valid monthLength
  rw [List.getD_eq_getElem?_getD]
  cases hm : d.month with
  | zero =>
    simp only [if_true]
    omega
  | succ m =>
    cases hn : (monthLengths d.year)[m + 1 - 1]? with
    | none =>
      simp only [Option.getD_none]
      constructor
      · rintro ⟨_, _, n, h, _⟩
        simp at h
      · intro h
        simp only [Nat.succ_ne_zero, if_false] at h
        omega
    | some n => simp

instance (d : Date) : Decidable d.Valid := decidable_of_iff _ d.valid_iff.symm

/-- Days since the first of January 1970. -/
def toDays (d : Date) : Int :=
  let before := ((monthLengths d.year).take (d.month - 1)).foldl Nat.add 0
  daysBefore d.year + before + d.day - 1 - 719162

end Date

/-- The month and the day of month of a day counted from the start of month `month`. -/
def splitMonths (month : Nat) (day : Nat) : List Nat → Nat × Nat
  | [] => (month, day + 1)
  | length :: lengths =>
    if day < length then (month, day + 1) else splitMonths (month + 1) (day - length) lengths

/-- The year that holds a day, and the days of that year before it; days count from year 1. -/
def splitYears (days : Int) : Int × Nat :=
  let fourCenturies := days / 146097
  let rest := days % 146097
  let centuries := min (rest / 36524) 3
  let rest := rest - centuries * 36524
  let fourYears := rest / 1461
  let rest := rest % 1461
  let years := min (rest / 365) 3
  (400 * fourCenturies + 100 * centuries + 4 * fourYears + years + 1, (rest - years * 365).toNat)

def Date.ofDays (days : Int) : Date :=
  let (year, day) := splitYears (days + 719162)
  let (month, day) := splitMonths 1 day (monthLengths year)
  ⟨year, month, day⟩

example : (⟨1970, 1, 1⟩ : Date).toDays = 0 ∧ (⟨2000, 3, 1⟩ : Date).toDays = 11017 := by decide
example : Date.ofDays (-719529) = ⟨-1, 12, 31⟩ ∧ Date.ofDays 19782 = ⟨2024, 2, 29⟩ := by decide
example : (⟨0, 2, 29⟩ : Date).Valid ∧ ¬ (⟨1900, 2, 29⟩ : Date).Valid := by decide

end Countinghouse.Time
