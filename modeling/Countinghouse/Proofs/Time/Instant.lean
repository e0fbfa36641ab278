import Countinghouse.Proofs.Decimal.Digits
import Countinghouse.Proofs.Time.Calendar
import Countinghouse.Time.Instant

/-!
Instants in writing. Each part of a written instant is taken from the front of the text as it was
written, so that instants which can be read at all are read back from their text.
-/
namespace Countinghouse

lemma Text.isBlank_of_isDigit {c : Char} (digit : c.isDigit = true) : isBlank c = false := by
  simp only [Char.isDigit, Bool.and_eq_true, decide_eq_true_eq] at digit
  have low : '0'.toNat ≤ c.toNat := digit.1
  have high : c.toNat ≤ '9'.toNat := digit.2
  rw [isBlank, ← Bool.not_eq_true]
  intro within
  obtain ⟨r, listed, first, last⟩ := exists_range_of_isWithin within
  have apart : ∀ r ∈ blankRanges, r.2 < '0'.toNat ∨ '9'.toNat < r.1 := by decide
  have := apart r listed
  omega

namespace Time

open Decimal

variable {rest : List Char}

namespace Instant

/-- No digit follows. -/
def EndsDigits (rest : List Char) : Prop := ∀ c ∈ rest.head?, c.isDigit = false

lemma endsDigits_cons {c : Char} (noDigit : c.isDigit = false) (cs : List Char) :
    EndsDigits (c :: cs) := by
  intro d first
  cases first
  exact noDigit

lemma takeDigits_of_digits {ds : List Char} (some : ds ≠ []) (digits : ∀ d ∈ ds, d.isDigit = true)
    (ends : EndsDigits rest) : takeDigits (ds ++ rest) = .some (ds, rest) := by
  rw [takeDigits, spanDigits_of_digits digits ends]
  split
  · rename_i same
    exact absurd (congrArg Prod.fst same) some
  · rfl

lemma skipBlanks_of_digits {ds : List Char} (some : ds ≠ [])
    (digits : ∀ d ∈ ds, d.isDigit = true) (rest : List Char) :
    Text.skipBlanks (ds ++ rest) = ds ++ rest := by
  obtain ⟨d, ds', rfl⟩ := List.exists_cons_of_ne_nil some
  rw [List.cons_append, Text.skipBlanks_cons,
    Text.isBlank_of_isDigit (digits d List.mem_cons_self), if_neg Bool.false_ne_true]

lemma takeNumber_padded {width n : Nat} (positive : 0 < width) (small : n < 10 ^ width)
    (ends : EndsDigits rest) : takeNumber width (padded width n ++ rest) = some (n, rest) := by
  have digits : ∀ d ∈ padded width n, d.isDigit = true := fun _ => isDigit_of_mem_padded
  have length := length_padded positive small
  rw [takeNumber, skipBlanks_of_digits (padded_ne_nil width n) digits,
    takeDigits_of_digits (padded_ne_nil width n) digits ends, Option.map_some]
  simp only [List.take_of_length_le (Nat.le_of_eq length),
    List.drop_of_length_le (Nat.le_of_eq length), value_padded, List.nil_append]

lemma takeMark_self {c : Char} (solid : Text.isBlank c = false) (rest : List Char) :
    takeMark c (c :: rest) = some rest := by
  rw [takeMark, Text.skipBlanks_cons, solid, if_neg Bool.false_ne_true]
  exact if_pos rfl

lemma takeYear_yearText (year : Int) (ends : EndsDigits rest) :
    takeYear (yearText year ++ rest) = some (year, rest) := by
  have digits : ∀ d ∈ padded 4 year.natAbs, d.isDigit = true := fun _ => isDigit_of_mem_padded
  have signed := takeDigits_of_digits (padded_ne_nil 4 year.natAbs) digits ends
  rw [yearText]
  by_cases plain : 0 ≤ year ∧ year ≤ 9999
  · have number := takeNumber_padded (by decide) (show year.natAbs < 10 ^ 4 by omega) ends
    obtain ⟨d, ds, shape⟩ := List.exists_cons_of_ne_nil (padded_ne_nil 4 year.natAbs)
    have digit : d.isDigit = true := digits d (by rw [shape]; exact List.mem_cons_self)
    rw [if_pos plain, takeYear, skipBlanks_of_digits (padded_ne_nil 4 year.natAbs) digits]
    split
    · rename_i same
      rw [shape, List.cons_append, List.cons.injEq] at same
      rw [same.1] at digit
      cases digit
    · rename_i same
      rw [shape, List.cons_append, List.cons.injEq] at same
      rw [same.1] at digit
      cases digit
    · rw [number, Option.map_some, Int.natAbs_of_nonneg plain.1]
  · rw [if_neg plain]
    by_cases negative : year < 0
    · rw [if_pos negative, List.cons_append, takeYear, Text.skipBlanks_cons]
      simp only [show Text.isBlank '-' = false by decide, if_neg Bool.false_ne_true, signed,
        Option.map_some, value_padded]
      congr 2
      omega
    · rw [if_neg negative, List.cons_append, takeYear, Text.skipBlanks_cons]
      simp only [show Text.isBlank '+' = false by decide, if_neg Bool.false_ne_true, signed,
        Option.map_some, value_padded]
      congr 2
      omega

/-- Months and days fit in two digits. -/
lemma two_digits_of_valid {d : Date} (valid : d.Valid) : d.month < 10 ^ 2 ∧ d.day < 10 ^ 2 := by
  obtain ⟨first, -, n, found, last⟩ := valid
  have lengths : ∀ n ∈ monthLengths d.year, n ≤ 31 := by
    rw [monthLengths]
    split <;> decide
  have inYear := (List.getElem?_eq_some_iff.1 found).1
  have inMonth := lengths n (List.mem_of_getElem? found)
  have months : (monthLengths d.year).length = 12 := rfl
  omega

lemma takeDate_dateText {d : Date} (valid : d.Valid) (ends : EndsDigits rest) :
    takeDate (dateText d ++ rest) = some (d, rest) := by
  obtain ⟨month, day⟩ := two_digits_of_valid valid
  simp only [takeDate, dateText, List.append_assoc, List.cons_append, Option.bind_eq_bind,
    takeYear_yearText d.year (endsDigits_cons (c := '-') rfl _), Option.bind_some,
    takeMark_self (c := '-') (by decide),
    takeNumber_padded (by decide) month (endsDigits_cons (c := '-') rfl _),
    takeNumber_padded (by decide) day ends]

lemma takeClock_clockText {c : Clock} (valid : c.Valid) (ends : EndsDigits rest) :
    takeClock (clockText c ++ rest) = some (c, rest) := by
  obtain ⟨hour, minute, second⟩ := valid
  have hours : c.hour < 10 ^ 2 := by omega
  have minutes : c.minute < 10 ^ 2 := by omega
  have seconds : c.second < 10 ^ 2 := by omega
  simp only [takeClock, clockText, List.append_assoc, List.cons_append, Option.bind_eq_bind,
    takeNumber_padded (by decide) hours (endsDigits_cons (c := ':') rfl _), Option.bind_some,
    takeMark_self (c := ':') (by decide),
    takeNumber_padded (by decide) minutes (endsDigits_cons (c := ':') rfl _),
    takeNumber_padded (by decide) seconds ends]

/-- Digits of a fraction count as many nanoseconds as their place says. -/
lemma nanosOfDigits_eq {ds : List Char} (few : ds.length ≤ 9) :
    nanosOfDigits ds = value ds * 10 ^ (9 - ds.length) := by
  rw [nanosOfDigits, List.take_of_length_le few, value_append, value_replicate_zero,
    List.length_replicate, Nat.add_zero]

lemma nanosOfDigits_padded {width n : Nat} (positive : 0 < width) (few : width ≤ 9)
    (small : n < 10 ^ width) : nanosOfDigits (padded width n) = n * 10 ^ (9 - width) := by
  have length := length_padded positive small
  rw [nanosOfDigits_eq (length.symm ▸ few), value_padded, length]

lemma takeFraction_point {ds : List Char} (some : ds ≠ []) (digits : ∀ d ∈ ds, d.isDigit = true)
    (ends : EndsDigits rest) :
    takeFraction ('.' :: (ds ++ rest)) = .some (nanosOfDigits ds, rest) := by
  rw [takeFraction, takeDigits_of_digits some digits ends, Option.map_some]

/-- Digits in threes that mean just these nanoseconds. -/
structure IsFraction (nanos : Nat) (ds : List Char) : Prop where
  threes : ds.length ∈ [0, 3, 6, 9]
  digits : ∀ d ∈ ds, d.isDigit = true
  exact : nanosOfDigits ds = nanos

/-- A fraction stands behind a point unless it has no digits. -/
def withPoint (ds : List Char) : List Char := if ds.isEmpty then [] else '.' :: ds

lemma isFraction_padded {width n nanos : Nat} (three : width ∈ [3, 6, 9])
    (small : n < 10 ^ width) (exact : n * 10 ^ (9 - width) = nanos) :
    IsFraction nanos (padded width n) := by
  have bounds : 0 < width ∧ width ≤ 9 := by
    simp only [List.mem_cons, List.not_mem_nil, or_false] at three
    omega
  refine ⟨?_, fun _ => isDigit_of_mem_padded, ?_⟩
  · rw [length_padded bounds.1 small]
    exact List.mem_cons_of_mem 0 three
  · rw [nanosOfDigits_padded bounds.1 bounds.2 small, exact]

lemma withPoint_padded (width n : Nat) : withPoint (padded width n) = '.' :: padded width n := by
  rw [withPoint, if_neg]
  simpa using padded_ne_nil width n

/-- Where `k` digits are exact, the places behind them are empty. -/
lemma IsFraction.mod_eq_zero {nanos : Nat} {ds : List Char} (fraction : IsFraction nanos ds) :
    nanos % 10 ^ (9 - ds.length) = 0 := by
  have threes := fraction.threes
  simp only [List.mem_cons, List.not_mem_nil, or_false] at threes
  rw [← fraction.exact, nanosOfDigits_eq (by omega), Nat.mul_mod_left]

lemma shortest_padded {width n nanos : Nat} (three : width ∈ [3, 6, 9]) (small : n < 10 ^ width)
    (exact : n * 10 ^ (9 - width) = nanos)
    (needed : ∀ k ∈ [0, 3, 6, 9], nanos % 10 ^ (9 - k) = 0 → width ≤ k) :
    ∃ ds, '.' :: padded width n = withPoint ds ∧ IsFraction nanos ds ∧
      ∀ ds', IsFraction nanos ds' → ds.length ≤ ds'.length := by
  have fraction := isFraction_padded three small exact
  refine ⟨padded width n, (withPoint_padded width n).symm, fraction, fun ds' other => ?_⟩
  have positive : 0 < width := by
    simp only [List.mem_cons, List.not_mem_nil, or_false] at three
    omega
  rw [length_padded positive small]
  exact needed ds'.length other.threes other.mod_eq_zero

/-- What is written of a fraction is exact, and no fewer digits in threes are. -/
lemma exists_fraction {nanos : Nat} (small : nanos < 1000000000) :
    ∃ ds, fractionText nanos = withPoint ds ∧ IsFraction nanos ds ∧
      ∀ ds', IsFraction nanos ds' → ds.length ≤ ds'.length := by
  rw [fractionText]
  split_ifs with none millis micros
  · refine ⟨[], rfl, ⟨by decide, by simp, ?_⟩, fun _ _ => Nat.zero_le _⟩
    rw [none]
    decide
  all_goals
    refine shortest_padded (by decide) (by omega) (by omega) fun k three exact => ?_
    simp only [List.mem_cons, List.not_mem_nil, or_false] at three
    rcases three with rfl | rfl | rfl | rfl <;> omega

lemma takeFraction_withPoint {ds : List Char} (digits : ∀ d ∈ ds, d.isDigit = true) :
    takeFraction (withPoint ds ++ ['Z']) = some (nanosOfDigits ds, ['Z']) := by
  cases ds with
  | nil => rfl
  | cons d ds => exact takeFraction_point (by simp) digits (endsDigits_cons rfl [])

/-- The instants that can be read: leap seconds stand at the end of a minute. -/
structure Valid (t : Instant) : Prop where
  inYears : InYears t.date
  nanos_lt : t.nanos < 2000000000
  leap : 1000000000 ≤ t.nanos → t.seconds % 60 = 59

variable {t : Instant}

lemma valid_clock (valid : t.Valid) : t.clock.Valid := by
  have leap := valid.leap
  simp only [clock, Clock.Valid, secondOfDay]
  split <;> omega

lemma ofLocal_clock (valid : t.Valid) :
    ofLocal t.date t.clock (t.nanos % 1000000000) 0 = t := by
  obtain ⟨-, small, leap⟩ := valid
  obtain ⟨seconds, nanos⟩ := t
  simp only [ofLocal, date, Date.toDays_ofDays, clock, secondOfDay, mk.injEq] at *
  split_ifs <;> omega

lemma ofText?_text (valid : t.Valid) : ofText? t.text = some t := by
  obtain ⟨ds, written, fraction, -⟩ :=
    exists_fraction (Nat.mod_lt t.nanos (by decide : 0 < 1000000000))
  have behind : EndsDigits (withPoint ds ++ ['Z']) := by
    cases ds <;> exact endsDigits_cons rfl _
  have valid_date : t.date.Valid := Date.valid_ofDays _
  have date : takeDate (dateText t.date ++ 'T' :: (clockText t.clock ++ (withPoint ds ++ ['Z']))) =
      some (t.date, 'T' :: (clockText t.clock ++ (withPoint ds ++ ['Z']))) :=
    takeDate_dateText valid_date (endsDigits_cons rfl _)
  have clock := takeClock_clockText (valid_clock valid) behind
  have offset : takeOffset (Text.skipBlanks ['Z']) = some (0, []) := by decide
  simp only [ofText?, text, written, List.append_assoc, date, takeSeparator, clock,
    takeFraction_withPoint fraction.digits, fraction.exact, offset, ofLocal_clock valid,
    Option.bind_eq_bind, Option.bind_some]
  exact if_pos ⟨rfl, valid_date, valid_clock valid, by decide, valid.inYears, valid.inYears⟩

/-- A date and a clock in universal time, with the shortest fraction in threes that is exact. -/
inductive IsUniversal (t : Instant) : List Char → Prop
  | written {d : Date} {c : Clock} {nanos : Nat} {ds : List Char} (date : d.Valid)
      (clock : c.Valid) (instant : ofLocal d c nanos 0 = t) (fraction : IsFraction nanos ds)
      (shortest : ∀ ds', IsFraction nanos ds' → ds.length ≤ ds'.length) :
      IsUniversal t (dateText d ++ 'T' :: (clockText c ++ withPoint ds ++ ['Z']))

lemma isUniversal_text (valid : t.Valid) : t.IsUniversal t.text := by
  obtain ⟨ds, written, fraction, shortest⟩ :=
    exists_fraction (Nat.mod_lt t.nanos (by decide : 0 < 1000000000))
  rw [text, written]
  exact .written (Date.valid_ofDays _) (valid_clock valid) (ofLocal_clock valid) fraction shortest

lemma nanosOfDigits_lt {ds : List Char} (digits : ∀ d ∈ ds, d.isDigit = true) :
    nanosOfDigits ds < 1000000000 := by
  have places : (ds.take 9 ++ List.replicate (9 - ds.length) '0').length = 9 := by
    rw [List.length_append, List.length_take, List.length_replicate]
    omega
  have padded : ∀ d ∈ ds.take 9 ++ List.replicate (9 - ds.length) '0', d.isDigit = true := by
    intro d member
    rcases List.mem_append.1 member with digit | zero
    · exact digits d (List.mem_of_mem_take digit)
    · rw [List.eq_of_mem_replicate zero]
      rfl
  have bound := value_lt padded
  rwa [places] at bound

lemma takeFraction_lt {cs : List Char} {nanos : Nat}
    (taken : takeFraction cs = some (nanos, rest)) :
    nanos < 1000000000 := by
  rw [takeFraction.eq_def] at taken
  split at taken
  · obtain ⟨p, found, same⟩ := Option.map_eq_some_iff.1 taken
    cases same
    rw [takeDigits] at found
    split at found
    · cases found
    · cases found
      exact nanosOfDigits_lt (List.all_eq_true.1 List.all_takeWhile)
  · cases taken
    decide

/-- Offsets are of whole minutes. -/
lemma takeHoursMinutes_mod {cs : List Char} {n : Nat}
    (taken : takeHoursMinutes cs = some (n, rest)) :
    n % 60 = 0 := by
  rw [takeHoursMinutes.eq_def] at taken
  split at taken
  · split at taken
    · split at taken
      · cases taken
        omega
      · cases taken
    · cases taken
  · cases taken

lemma takeOffset_mod {cs : List Char} {offset : Int} (taken : takeOffset cs = some (offset, rest)) :
    offset % 60 = 0 := by
  rw [takeOffset.eq_def] at taken
  split at taken
  case h_1 | h_2 =>
    cases taken
    decide
  case h_3 | h_4 | h_5 =>
    obtain ⟨p, found, same⟩ := Option.map_eq_some_iff.1 taken
    have minutes := takeHoursMinutes_mod found
    cases same
    omega
  case h_6 =>
    split at taken
    · cases taken
      decide
    · cases taken
  case h_7 => cases taken

/-- Whatever is read is valid. -/
lemma valid_of_ofText? {cs : List Char} (read : ofText? cs = some t) : t.Valid := by
  simp only [ofText?, Option.bind_eq_bind, Option.bind_eq_some_iff] at read
  obtain ⟨⟨d, cs₁⟩, -, cs₂, -, ⟨c, cs₃⟩, -, ⟨nanos, cs₄⟩, fraction, ⟨offset, cs₅⟩, shift, last⟩ :=
    read
  have small := takeFraction_lt fraction
  have minutes := takeOffset_mod shift
  split at last
  · rename_i good
    obtain ⟨-, -, ⟨-, -, second⟩, -, -, inYears⟩ := good
    cases last
    refine ⟨inYears, ?_, ?_⟩
    · simp only [ofLocal]
      split <;> omega
    · simp only [ofLocal]
      split <;> omega
  · cases last

end Instant
end Time
end Countinghouse
