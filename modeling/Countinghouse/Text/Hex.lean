/-! Hexadecimal digits: written in lower case, read in either. -/
namespace Countinghouse.Text

def hexDigit (n : Nat) : Char := Nat.digitChar n

def hexValue? (c : Char) : Option Nat :=
  if c.isDigit then some (c.toNat - '0'.toNat)
  else if 'a' ≤ c ∧ c ≤ 'f' then some (c.toNat - 'a'.toNat + 10)
  else if 'A' ≤ c ∧ c ≤ 'F' then some (c.toNat - 'A'.toNat + 10)
  else none

theorem hexValue?_hexDigit {n : Nat} (h : n < 16) : hexValue? (hexDigit n) = some n := by
  have all : ∀ m, m < 16 → hexValue? (hexDigit m) = some m := by decide
  exact all n h

theorem hexValue?_lt {c : Char} {n : Nat} (h : hexValue? c = some n) : n < 16 := by
  unfold hexValue? at h
  have bound {a b : Char} (hc : c ≤ b) : c.toNat - a.toNat ≤ b.toNat - a.toNat :=
    Nat.sub_le_sub_right hc _
  split at h
  · rename_i hd
    simp only [Char.isDigit, Bool.and_eq_true, decide_eq_true_eq] at hd
    have := bound (a := '0') (b := '9') hd.2
    simp only [Option.some.injEq] at h
    have : '9'.toNat - '0'.toNat = 9 := rfl
    omega
  · split at h
    · rename_i hd
      have := bound (a := 'a') hd.2
      simp only [Option.some.injEq] at h
      have : 'f'.toNat - 'a'.toNat = 5 := rfl
      omega
    · split at h
      · rename_i hd
        have := bound (a := 'A') hd.2
        simp only [Option.some.injEq] at h
        have : 'F'.toNat - 'A'.toNat = 5 := rfl
        omega
      · simp at h

/-- The value of a row of hexadecimal digits that continues the number `acc`. -/
def hexFrom? (acc : Nat) : List Char → Option Nat
  | [] => some acc
  | c :: cs =>
    match hexValue? c with
    | some d => hexFrom? (16 * acc + d) cs
    | none => none

def hexNumber? (cs : List Char) : Option Nat := hexFrom? 0 cs

/-- The last `width` hexadecimal digits of `n`. -/
def hexPadded : Nat → Nat → List Char
  | 0, _ => []
  | width + 1, n => hexPadded width (n / 16) ++ [hexDigit (n % 16)]

@[simp] theorem length_hexPadded (width n : Nat) : (hexPadded width n).length = width := by
  induction width generalizing n with
  | zero => rfl
  | succ width ih => simp [hexPadded, ih]

theorem hexFrom?_append (acc : Nat) (cs ds : List Char) :
    hexFrom? acc (cs ++ ds) = (hexFrom? acc cs).bind (hexFrom? · ds) := by
  induction cs generalizing acc with
  | nil => rfl
  | cons c cs ih =>
    simp only [List.cons_append, hexFrom?]
    cases hexValue? c with
    | none => rfl
    | some d => exact ih _

theorem hexNumber?_hexPadded (width n : Nat) :
    hexNumber? (hexPadded width n) = some (n % Nat.pow 16 width) := by
  induction width generalizing n with
  | zero => simp [hexPadded, hexNumber?, hexFrom?, Nat.mod_one]
  | succ width ih =>
    simp only [hexNumber?] at ih ⊢
    rw [hexPadded, hexFrom?_append, ih]
    simp only [Option.bind_some, hexFrom?, hexValue?_hexDigit (Nat.mod_lt n (by decide : 0 < 16)),
      Option.some.injEq]
    rw [Nat.pow_eq, Nat.pow_eq, Nat.pow_succ, Nat.mul_comm (16 ^ width) 16, Nat.mod_mul]
    omega

example : hexPadded 4 0x2aF = ['0', '2', 'a', 'f'] := by decide
example : hexNumber? ['F', 'f', '1', '0'] = some 0xff10 ∧ hexNumber? ['g'] = none := by decide

end Countinghouse.Text
