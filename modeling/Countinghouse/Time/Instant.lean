import Countinghouse.Decimal.Numeral
import Countinghouse.Text.Blank
import Countinghouse.Time.Calendar

/-!
Points in time. They are read in local time with an offset and kept and written in universal time;
a leap second is the second before it with a full second more of nanoseconds.
-/
namespace Countinghouse.Time

/-- Seconds since the start of 1970, and nanoseconds, less than two seconds of them. -/
structure Instant where
  seconds : Int
  nanos : Nat
deriving DecidableEq, Repr

/-- Years that an instant may fall in. -/
def InYears (d : Date) : Prop := -262143 ≤ d.year ∧ d.year ≤ 262142

instance (d : Date) : Decidable (InYears d) := by
  unfold InYears
  infer_instance

namespace Instant

def date (t : Instant) : Date := Date.ofDays (t.seconds / 86400)
def secondOfDay (t : Instant) : Nat := (t.seconds % 86400).toNat

/-! Reading: each part is taken from the front of a text. -/

def takeDigits (cs : List Char) : Option (List Char × List Char) :=
  match Decimal.spanDigits cs with
  | ([], _) => none
  | parts => some parts

/-- A number of at most `most` digits; further digits are left where they are. -/
def takeNumber (most : Nat) (cs : List Char) : Option (Nat × List Char) :=
  (takeDigits (Text.skipBlanks cs)).map fun p =>
    (Decimal.value (p.1.take most), p.1.drop most ++ p.2)

/-- A year has at most four digits, or a sign and any number of them. -/
def takeYear (cs : List Char) : Option (Int × List Char) :=
  match Text.skipBlanks cs with
  | '-' :: rest => (takeDigits rest).map fun p => (-(Decimal.value p.1 : Int), p.2)
  | '+' :: rest => (takeDigits rest).map fun p => ((Decimal.value p.1 : Int), p.2)
  | front => (takeNumber 4 front).map fun p => ((p.1 : Int), p.2)

def takeMark (mark : Char) (cs : List Char) : Option (List Char) :=
  match Text.skipBlanks cs with
  | c :: rest => if c = mark then some rest else none
  | [] => none

def takeDate (cs : List Char) : Option (Date × List Char) := do
  let (year, cs) ← takeYear cs
  let cs ← takeMark '-' cs
  let (month, cs) ← takeNumber 2 cs
  let cs ← takeMark '-' cs
  let (day, cs) ← takeNumber 2 cs
  some (⟨year, month, day⟩, cs)

def takeSeparator : List Char → Option (List Char)
  | 'T' :: cs => some cs
  | 't' :: cs => some cs
  | ' ' :: cs => some cs
  | _ => none

structure Clock where
  hour : Nat
  minute : Nat
  second : Nat
deriving DecidableEq, Repr

/-- Second 60 is a leap second, in any minute. -/
def Clock.Valid (c : Clock) : Prop := c.hour < 24 ∧ c.minute < 60 ∧ c.second ≤ 60

instance (c : Clock) : Decidable c.Valid := by
  unfold Clock.Valid
  infer_instance

def takeClock (cs : List Char) : Option (Clock × List Char) := do
  let (hour, cs) ← takeNumber 2 cs
  let cs ← takeMark ':' cs
  let (minute, cs) ← takeNumber 2 cs
  let cs ← takeMark ':' cs
  let (second, cs) ← takeNumber 2 cs
  some (⟨hour, minute, second⟩, cs)

/-- Digits of a fraction as nanoseconds; those after the ninth count for nothing. -/
def nanosOfDigits (ds : List Char) : Nat :=
  Decimal.value (ds.take 9 ++ List.replicate (9 - ds.length) '0')

def takeFraction : List Char → Option (Nat × List Char)
  | '.' :: cs => (takeDigits cs).map fun p => (nanosOfDigits p.1, p.2)
  | cs => some (0, cs)

def isSeparator (c : Char) : Bool := c = ':' || Text.isBlank c

/-- Hours and minutes of two digits each. -/
def takeHoursMinutes : List Char → Option (Nat × List Char)
  | a :: b :: cs =>
    match cs.dropWhile isSeparator with
    | c :: d :: rest =>
      if [a, b, c, d].all Char.isDigit ∧ Decimal.value [c, d] < 60 then
        some (Decimal.value [a, b] * 3600 + Decimal.value [c, d] * 60, rest)
      else none
    | _ => none
  | _ => none

/-- Seconds that local time is ahead of universal time. -/
def takeOffset (cs : List Char) : Option (Int × List Char) :=
  match cs with
  | 'Z' :: rest => some (0, rest)
  | 'z' :: rest => some (0, rest)
  | '+' :: rest => (takeHoursMinutes rest).map fun p => ((p.1 : Int), p.2)
  | '-' :: rest => (takeHoursMinutes rest).map fun p => (-(p.1 : Int), p.2)
  | '\u2212' :: rest => (takeHoursMinutes rest).map fun p => (-(p.1 : Int), p.2)
  | u :: t :: c :: rest =>
    if [u, t, c].map Char.toUpper = ['U', 'T', 'C'] then some (0, rest) else none
  | _ => none

def ofLocal (d : Date) (c : Clock) (nanos : Nat) (offset : Int) : Instant :=
  ⟨d.toDays * 86400 + c.hour * 3600 + c.minute * 60 + min c.second 59 - offset,
    if c.second = 60 then nanos + 1000000000 else nanos⟩

/-- Offsets reach to less than a day, and years are bounded in local as in universal time. -/
def ofText? (cs : List Char) : Option Instant := do
  let (d, cs) ← takeDate cs
  let cs ← takeSeparator cs
  let (c, cs) ← takeClock cs
  let (nanos, cs) ← takeFraction cs
  let (offset, cs) ← takeOffset (Text.skipBlanks cs)
  let t := ofLocal d c nanos offset
  if (Text.skipBlanks cs).isEmpty ∧ d.Valid ∧ c.Valid ∧ offset.natAbs < 86400 ∧ InYears d ∧
      InYears t.date then
    some t
  else none

/-! Writing. -/

/-- Years of other than four digits bear a sign. -/
def yearText (year : Int) : List Char :=
  if 0 ≤ year ∧ year ≤ 9999 then Decimal.padded 4 year.natAbs
  else (if year < 0 then '-' else '+') :: Decimal.padded 4 year.natAbs

/-- The fewest digits, in threes, that are exact. -/
def fractionText (nanos : Nat) : List Char :=
  if nanos = 0 then []
  else if nanos % 1000000 = 0 then '.' :: Decimal.padded 3 (nanos / 1000000)
  else if nanos % 1000 = 0 then '.' :: Decimal.padded 6 (nanos / 1000)
  else '.' :: Decimal.padded 9 nanos

def dateText (d : Date) : List Char :=
  yearText d.year ++ '-' :: (Decimal.padded 2 d.month ++ '-' :: Decimal.padded 2 d.day)

def clockText (c : Clock) : List Char :=
  Decimal.padded 2 c.hour ++ ':' ::
    (Decimal.padded 2 c.minute ++ ':' :: Decimal.padded 2 c.second)

def clock (t : Instant) : Clock :=
  ⟨t.secondOfDay / 3600, t.secondOfDay / 60 % 60,
    t.secondOfDay % 60 + if 1000000000 ≤ t.nanos then 1 else 0⟩

def text (t : Instant) : List Char :=
  dateText t.date ++ 'T' :: (clockText t.clock ++ fractionText (t.nanos % 1000000000) ++ ['Z'])

example : (ofText? "1969-12-31t23:59:60.5 +00:00".toList) = some ⟨-1, 1500000000⟩ := by decide
example : text ⟨-1, 1500000000⟩ = "1969-12-31T23:59:60.500Z".toList := by decide
example : text ⟨-62167219201, 0⟩ = "-0001-12-31T23:59:59Z".toList := by decide

end Instant
end Countinghouse.Time
