import Countinghouse.Decimal.Layout

/-! Numbers of JSON: how they are spelt, and the integer or the double that a spelling means. -/
namespace Countinghouse.Json

/-- The parts of a spelling; an absent fraction has no digits. -/
structure Number where
  negative : Bool
  whole : List Char
  fraction : List Char
  exponent : Option Int
deriving DecidableEq, Repr

namespace Number

/-- A whole part begins with zero only when it is zero. -/
def scanWhole (cs : List Char) : Option (List Char × List Char) :=
  match Decimal.spanDigits cs with
  | ([], _) => none
  | ('0' :: _ :: _, _) => none
  | (ds, rest) => some (ds, rest)

def scanFraction : List Char → Option (List Char × List Char)
  | '.' :: cs =>
    match Decimal.spanDigits cs with
    | ([], _) => none
    | (ds, rest) => some (ds, rest)
  | cs => some ([], cs)

def scanSign : List Char → Bool × List Char
  | '-' :: cs => (true, cs)
  | '+' :: cs => (false, cs)
  | cs => (false, cs)

def scanPower (cs : List Char) : Option (Int × List Char) :=
  match Decimal.spanDigits (scanSign cs).2 with
  | ([], _) => none
  | (ds, rest) =>
    some (if (scanSign cs).1 then -(Decimal.value ds : Int) else Decimal.value ds, rest)

def scanExponent : List Char → Option (Option Int × List Char)
  | 'e' :: cs => (scanPower cs).map fun p => (some p.1, p.2)
  | 'E' :: cs => (scanPower cs).map fun p => (some p.1, p.2)
  | cs => some (none, cs)

def scanUnsigned (negative : Bool) (cs : List Char) : Option (Number × List Char) := do
  let (whole, cs) ← scanWhole cs
  let (fraction, cs) ← scanFraction cs
  let (exponent, cs) ← scanExponent cs
  some (⟨negative, whole, fraction, exponent⟩, cs)

/-- The longest number at the front, and what follows it. -/
def scan : List Char → Option (Number × List Char)
  | '-' :: cs => scanUnsigned true cs
  | cs => scanUnsigned false cs

theorem length_scanWhole_lt {cs ds rest : List Char} (h : scanWhole cs = some (ds, rest)) :
    rest.length < cs.length := by
  have split := congrArg List.length (Decimal.spanDigits_append cs)
  simp only [List.length_append] at split
  unfold scanWhole at h
  split at h
  · simp at h
  · simp at h
  · rename_i ds' rest' hne _ heq
    simp only [Option.some.injEq, Prod.mk.injEq] at h
    have : ds' ≠ [] := hne
    have := List.length_pos_iff.2 this
    simp only [heq] at split
    rw [← h.2]
    omega

theorem length_scanFraction_le {cs ds rest : List Char} (h : scanFraction cs = some (ds, rest)) :
    rest.length ≤ cs.length := by
  unfold scanFraction at h
  split at h
  · rename_i tail
    have := Decimal.length_spanDigits_snd_le tail
    split at h
    · simp at h
    · rename_i heq
      simp only [Option.some.injEq, Prod.mk.injEq] at h
      simp only [heq] at this
      rw [← h.2, List.length_cons]
      omega
  · simp_all

theorem length_scanSign_le (cs : List Char) : (scanSign cs).2.length ≤ cs.length := by
  unfold scanSign
  split <;> simp

theorem length_scanPower_le {cs rest : List Char} {n : Int} (h : scanPower cs = some (n, rest)) :
    rest.length ≤ cs.length := by
  have sign := length_scanSign_le cs
  have power := Decimal.length_spanDigits_snd_le (scanSign cs).2
  unfold scanPower at h
  split at h
  · simp at h
  · rename_i heq
    simp only [Option.some.injEq, Prod.mk.injEq] at h
    simp only [heq] at power
    rw [← h.2]
    omega

theorem length_scanExponent_le {cs rest : List Char} {e : Option Int}
    (h : scanExponent cs = some (e, rest)) : rest.length ≤ cs.length := by
  unfold scanExponent at h
  split at h
  · obtain ⟨p, hp, he⟩ := Option.map_eq_some_iff.1 h
    have := length_scanPower_le hp
    simp only [Prod.mk.injEq] at he
    rw [← he.2, List.length_cons]
    omega
  · obtain ⟨p, hp, he⟩ := Option.map_eq_some_iff.1 h
    have := length_scanPower_le hp
    simp only [Prod.mk.injEq] at he
    rw [← he.2, List.length_cons]
    omega
  · simp_all

theorem length_scanUnsigned_lt {b : Bool} {cs rest : List Char} {n : Number}
    (h : scanUnsigned b cs = some (n, rest)) : rest.length < cs.length := by
  unfold scanUnsigned at h
  simp only [Option.bind_eq_bind, Option.bind_eq_some_iff, Prod.exists, Option.some.injEq,
    Prod.mk.injEq] at h
  obtain ⟨_, _, hw, _, _, hf, _, _, he, _, rfl⟩ := h
  have := length_scanWhole_lt hw
  have := length_scanFraction_le hf
  have := length_scanExponent_le he
  omega

theorem length_scan_lt {cs rest : List Char} {n : Number} (h : scan cs = some (n, rest)) :
    rest.length < cs.length := by
  unfold scan at h
  split at h
  · have := length_scanUnsigned_lt h
    rw [List.length_cons]
    omega
  · exact length_scanUnsigned_lt h

end Number

/-- What a number means: an integer of 64 bits, or a double. -/
inductive Numeral
  | whole (n : Int)
  | real (x : Float)

namespace Numeral

/-- Digits join the significand as long as it stays below 2^64; the others are left over. -/
def gather (significand : Nat) : List Char → Nat × List Char
  | [] => (significand, [])
  | c :: cs =>
    let next := Nat.ofDigitChars 10 [c] significand
    if next < Nat.pow 2 64 then gather next cs else (significand, c :: cs)

/-- A power of ten as a double. -/
def power (n : Nat) : Float := Float.ofScientific 1 false n

/--
The product with a power of ten, as one multiplication or division. Powers beyond 308 are reached
by steps, and only downwards; a product beyond all doubles has no value.
-/
def scale? (x : Float) (exponent : Int) : Option Float :=
  if exponent.natAbs ≤ 308 then
    if 0 ≤ exponent then
      let y := x * power exponent.natAbs
      if y.isInf then none else some y
    else some (x / power exponent.natAbs)
  else if x == 0 then some x
  else if 0 ≤ exponent then none
  else scale? (x / power 308) (exponent + 308)
termination_by exponent.natAbs
decreasing_by omega

end Numeral

namespace Number

def isWhole (n : Number) : Bool := n.fraction.isEmpty && n.exponent.isNone

/-- Leftover digits of the whole part count as zeros, those of the fraction are dropped. -/
def real? (n : Number) : Option Float :=
  let (high, leftWhole) := Numeral.gather 0 n.whole
  let (significand, leftFraction) := Numeral.gather high n.fraction
  let shift := (leftWhole.length : Int) - (n.fraction.length - leftFraction.length : Nat)
  match Numeral.scale? (UInt64.ofNat significand).toFloat (shift + n.exponent.getD 0) with
  | some x => some (if n.negative then -x else x)
  | none => none

/-- Zero with a minus sign and integers beyond 64 bits are doubles; one too large means nothing. -/
def value? (n : Number) : Option Numeral :=
  let magnitude := Decimal.value n.whole
  if n.isWhole ∧ !n.negative ∧ magnitude < Nat.pow 2 64 then some (.whole magnitude)
  else if n.isWhole ∧ n.negative ∧ 0 < magnitude ∧ magnitude ≤ Nat.pow 2 63 then
    some (.whole (-magnitude))
  else n.real?.map .real

example : scan "-12.50e+3,".toList = some (⟨true, ['1', '2'], ['5', '0'], some 3⟩, [',']) := by
  decide
example : scan "01".toList = none ∧ scan "1.".toList = none ∧ scan "-".toList = none := by decide

end Number
end Countinghouse.Json
