import Countinghouse.Decimal.Shortest

/-! Decimals laid out as text, with a point or with an exponent. -/
namespace Countinghouse.Decimal

/--
A number whose point falls after `lowest` and up to `highest` places of its digits is written with
a point, any other with an exponent.
-/
structure Layout where
  lowest : Int
  highest : Int
  plusSign : Bool
deriving DecidableEq, Repr

def Layout.signed (l : Layout) (n : Int) : List Char :=
  if l.plusSign ∧ 0 ≤ n then '+' :: numeral n else numeral n

/-- At least one digit stands on either side of a point. -/
def Layout.text (l : Layout) (s : Scaled) : List Char :=
  let ds := digits s.mantissa
  let point := ds.length + s.exponent
  if l.lowest < point ∧ point ≤ l.highest then
    if 0 ≤ s.exponent then ds ++ List.replicate s.exponent.toNat '0' ++ ['.', '0']
    else if 0 < point then ds.take point.toNat ++ '.' :: ds.drop point.toNat
    else '0' :: '.' :: (List.replicate (-point).toNat '0' ++ ds)
  else
    let tail := if ds.length ≤ 1 then [] else '.' :: ds.drop 1
    ds.take 1 ++ tail ++ 'e' :: l.signed (point - 1)

/-- The text of a finite double, zeros and negative ones included. -/
def Layout.float (l : Layout) (x : Float) : List Char :=
  let bits := x.toBits.toNat
  let magnitude := bits % Nat.pow 2 63
  let body := l.text (if magnitude = 0 then ⟨0, 0⟩ else (Interval.ofBits magnitude).shortest)
  if magnitude = bits then body else '-' :: body

end Countinghouse.Decimal
