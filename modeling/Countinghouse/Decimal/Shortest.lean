import Countinghouse.Decimal.Numeral

/-!
The shortest decimal that reads back as a given binary fraction. The reals that round to a double
form an interval around it; of the decimal grids 1, 2, … 17 digits wide the first that has a point
in the interval decides, and of two such points the nearer.
-/
namespace Countinghouse.Decimal

/-- The number `mantissa * 10 ^ exponent`. -/
structure Scaled where
  mantissa : Nat
  exponent : Int
deriving DecidableEq, Repr

/-- A fraction with the bounds of its interval, over one denominator. -/
structure Interval where
  low : Nat
  mid : Nat
  high : Nat
  denominator : Nat
  closed : Bool
deriving DecidableEq, Repr

/-- Bounds lie half a unit away, a quarter below a power of two that has a smaller neighbour. -/
def Interval.ofBinary (mantissa : Nat) (exponent : Int) (narrow : Bool) : Interval :=
  let up := Nat.pow 2 (exponent - 2).toNat
  ⟨(4 * mantissa - if narrow then 1 else 2) * up, 4 * mantissa * up, (4 * mantissa + 2) * up,
    Nat.pow 2 (2 - exponent).toNat, mantissa % 2 = 0⟩

/-- The interval of the positive finite double with these bits. -/
def Interval.ofBits (bits : Nat) : Interval :=
  let fraction := bits % Nat.pow 2 52
  let biased := bits / Nat.pow 2 52 % Nat.pow 2 11
  if biased = 0 then .ofBinary fraction (-1074) false
  else .ofBinary (Nat.pow 2 52 + fraction) (Int.ofNat biased - 1075) (fraction = 0 && 1 < biased)

/-- The interval holds `numerator / scale`. -/
def Interval.Holds (i : Interval) (numerator scale : Nat) : Prop :=
  if i.closed then
    i.low * scale ≤ numerator * i.denominator ∧ numerator * i.denominator ≤ i.high * scale
  else i.low * scale < numerator * i.denominator ∧ numerator * i.denominator < i.high * scale

instance (i : Interval) (numerator scale : Nat) : Decidable (i.Holds numerator scale) := by
  unfold Interval.Holds
  infer_instance

/-- How many places the fraction needs before the point; at most zero when it is below one. -/
def Interval.magnitude (i : Interval) : Int :=
  if i.denominator ≤ i.mid then (digits (i.mid / i.denominator)).length
  else -((List.range 400).findIdx fun k => i.denominator ≤ i.mid * Nat.pow 10 (k + 1))

/-- The better of the two neighbours of the middle on the grid of multiples of `10 ^ exponent`. -/
def Interval.onGrid (i : Interval) (exponent : Int) : Option Nat :=
  let up := Nat.pow 10 exponent.toNat
  let down := Nat.pow 10 (-exponent).toNat
  let below := i.mid * down / (i.denominator * up)
  let rest := i.mid * down % (i.denominator * up)
  let nearBelow := 2 * rest < i.denominator * up ∨ (2 * rest = i.denominator * up ∧ below % 2 = 0)
  match decide (i.Holds (below * up) down), decide (i.Holds ((below + 1) * up) down) with
  | true, true => some (if nearBelow then below else below + 1)
  | true, false => some below
  | false, true => some (below + 1)
  | false, false => none

/-- A power of ten next above the middle is met on the grid of one digit, as ten units. -/
def Interval.shortest (i : Interval) : Scaled :=
  let places := i.magnitude
  let width := (List.range 17).find? fun k => (i.onGrid (places - (k + 1 : Nat))).isSome
  let exponent := places - (width.getD 16 + 1 : Nat)
  let mantissa := (i.onGrid exponent).getD 0
  if mantissa = 10 then ⟨1, exponent + 1⟩ else ⟨mantissa, exponent⟩

end Countinghouse.Decimal
