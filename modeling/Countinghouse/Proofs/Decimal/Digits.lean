import Countinghouse.Decimal.Numeral
import Mathlib.Algebra.GroupWithZero.Nat
import Mathlib.Logic.Function.Basic
import Mathlib.Tactic.Common

/-!
Decimal digits and their value. A number that is filled up with zeros has the wanted length and
still its value, and digits are found again where none follow them.
-/
namespace Countinghouse.Decimal

lemma digits_ne_nil (n : Nat) : digits n ≠ [] := Nat.toDigits_ne_nil

/-- No number but zero begins with a zero. -/
lemma head?_digits {n : Nat} (positive : 0 < n) : (digits n).head? ≠ some '0' := by
  induction n using Nat.strongRecOn with
  | ind n ih =>
    rcases Nat.lt_or_ge n 10 with small | large
    · rw [digits, Nat.toDigits_of_lt_base small]
      have all : ∀ m, m < 10 → 0 < m → [Nat.digitChar m].head? ≠ some '0' := by decide
      exact all n small positive
    · have fewer := ih (n / 10) (Nat.div_lt_self positive (by decide))
        (Nat.div_pos large (by decide))
      obtain ⟨d, ds, shape⟩ := List.exists_cons_of_ne_nil (digits_ne_nil (n / 10))
      rw [digits] at shape fewer
      rw [digits, Nat.toDigits_of_base_le (by decide) large, shape]
      rwa [shape] at fewer

/-- Digits are found again where no digit follows them. -/
lemma spanDigits_of_digits {ds rest : List Char} (digits : ∀ d ∈ ds, d.isDigit = true)
    (ends : ∀ c ∈ rest.head?, c.isDigit = false) : spanDigits (ds ++ rest) = (ds, rest) := by
  have none : rest.takeWhile Char.isDigit = [] ∧ rest.dropWhile Char.isDigit = rest := by
    cases rest with
    | nil => exact ⟨rfl, rfl⟩
    | cons c cs =>
      have stop := ends c rfl
      simp [stop]
  rw [spanDigits, List.takeWhile_append_of_pos digits, List.dropWhile_append_of_pos digits, none.1,
    none.2, List.append_nil]

lemma digits_injective : Function.Injective digits :=
  Function.LeftInverse.injective value_digits

lemma isDigit_or_minus_of_mem_numeral {i : Int} {c : Char} (member : c ∈ numeral i) :
    c.isDigit = true ∨ c = '-' := by
  cases i with
  | ofNat n => exact .inl (isDigit_of_mem_digits member)
  | negSucc n =>
    rcases List.mem_cons.1 member with minus | digit
    · exact .inr minus
    · exact .inl (isDigit_of_mem_digits digit)

lemma numeral_injective : Function.Injective numeral := by
  have noMinus (n : Nat) : '-' ∉ digits n := by
    intro member
    cases isDigit_of_mem_digits member
  intro i j same
  cases i with
  | ofNat m =>
    cases j with
    | ofNat n => exact congrArg Int.ofNat (digits_injective same)
    | negSucc n =>
      have minus : digits m = '-' :: digits (n + 1) := same
      exact absurd (minus ▸ List.mem_cons_self) (noMinus m)
  | negSucc m =>
    cases j with
    | ofNat n =>
      have minus : digits n = '-' :: digits (m + 1) := same.symm
      exact absurd (minus ▸ List.mem_cons_self) (noMinus n)
    | negSucc n =>
      have size := digits_injective (List.cons.inj same).2
      exact congrArg Int.negSucc (Nat.succ.inj size)

lemma value_append (cs ds : List Char) :
    value (cs ++ ds) = value cs * 10 ^ ds.length + value ds := by
  rw [value, Nat.ofDigitChars_append, Nat.ofDigitChars_eq_ofDigitChars_zero, Nat.mul_comm]
  rfl

lemma value_replicate_zero (n : Nat) : value (List.replicate n '0') = 0 := by
  rw [value, Nat.ofDigitChars_replicate_zero, Nat.mul_zero]

lemma value_singleton_lt {d : Char} (digit : d.isDigit = true) : value [d] < 10 := by
  have bounds := digit
  simp only [Char.isDigit, Bool.and_eq_true, decide_eq_true_eq] at bounds
  have high : d.toNat ≤ '9'.toNat := bounds.2
  have nine : '9'.toNat = 57 := rfl
  have zero : '0'.toNat = 48 := rfl
  rw [value, Nat.ofDigitChars_cons, Nat.ofDigitChars_nil]
  omega

lemma value_lt {ds : List Char} (digits : ∀ d ∈ ds, d.isDigit = true) :
    value ds < 10 ^ ds.length := by
  induction ds with
  | nil => exact Nat.one_pos
  | cons d ds ih =>
    have first := value_singleton_lt (digits d List.mem_cons_self)
    have later := ih fun e member => digits e (List.mem_cons_of_mem d member)
    rw [← List.singleton_append, value_append]
    calc value [d] * 10 ^ ds.length + value ds
      _ < value [d] * 10 ^ ds.length + 10 ^ ds.length := Nat.add_lt_add_left later _
      _ = (value [d] + 1) * 10 ^ ds.length := (Nat.succ_mul _ _).symm
      _ ≤ 10 * 10 ^ ds.length := Nat.mul_le_mul_right _ first
      _ = 10 ^ ([d] ++ ds).length := by rw [List.singleton_append, List.length_cons, Nat.pow_succ']

lemma isDigit_of_mem_padded {width n : Nat} {c : Char} (member : c ∈ padded width n) :
    c.isDigit = true := by
  rcases List.mem_append.1 member with zero | digit
  · rw [List.eq_of_mem_replicate zero]
    rfl
  · exact isDigit_of_mem_digits digit

lemma padded_ne_nil (width n : Nat) : padded width n ≠ [] :=
  List.append_ne_nil_of_right_ne_nil _ (digits_ne_nil n)

@[simp] lemma value_padded (width n : Nat) : value (padded width n) = n := by
  rw [padded, value_append, value_replicate_zero, Nat.zero_mul, Nat.zero_add, value_digits]

lemma length_padded {width n : Nat} (positive : 0 < width) (small : n < 10 ^ width) :
    (padded width n).length = width := by
  have fits : (digits n).length ≤ width := (Nat.length_toDigits_le_iff (by decide) positive).2 small
  rw [padded, List.length_append, List.length_replicate]
  omega

end Countinghouse.Decimal
