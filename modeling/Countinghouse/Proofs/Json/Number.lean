import Countinghouse.Proofs.Decimal.Digits
import Countinghouse.Proofs.Json.Grammar

/-!
Numbers found again in what spells them, and integers among them. A number ends where what follows
cannot continue it; up to there its parts are found as they were spelt.
-/
namespace Countinghouse

namespace Json

lemma areDigits_digits (n : Nat) : AreDigits (Decimal.digits n) :=
  ⟨Decimal.digits_ne_nil n, fun _ => Decimal.isDigit_of_mem_digits⟩

namespace Number

/-- What stands here does not continue a number. -/
def Ends (rest : List Char) : Prop :=
  ∀ c ∈ rest.head?, c.isDigit = false ∧ c ≠ '.' ∧ c ≠ 'e' ∧ c ≠ 'E'

/-- What stands here does not continue this number; a part that it has already cannot come again. -/
def EndsAt (n : Number) (rest : List Char) : Prop :=
  ∀ c ∈ rest.head?, c.isDigit = false ∧ (n.exponent = none → c ≠ 'e' ∧ c ≠ 'E') ∧
    (n.fraction = [] → n.exponent = none → c ≠ '.')

lemma Ends.endsAt {rest : List Char} (ends : Ends rest) (n : Number) : n.EndsAt rest := by
  intro c first
  obtain ⟨digit, point, small, capital⟩ := ends c first
  exact ⟨digit, fun _ => ⟨small, capital⟩, fun _ _ => point⟩

variable {rest : List Char}

lemma scanWhole_of_digits {ds : List Char} (digits : AreDigits ds)
    (front : ds = ['0'] ∨ ds.head? ≠ some '0') (ends : ∀ c ∈ rest.head?, c.isDigit = false) :
    scanWhole (ds ++ rest) = some (ds, rest) := by
  rw [scanWhole.eq_def, Decimal.spanDigits_of_digits digits.2 ends]
  split
  · rename_i same
    exact absurd (congrArg Prod.fst same) digits.1
  · rename_i c cs _ same
    have zeros : ds = '0' :: c :: cs := congrArg Prod.fst same
    rw [zeros] at front
    simp at front
  · rename_i same
    cases same
    rfl

lemma scanFraction_of_digits {ds : List Char} (digits : ∀ d ∈ ds, d.isDigit = true)
    (ends : ∀ c ∈ rest.head?, c.isDigit = false ∧ (ds = [] → c ≠ '.')) :
    scanFraction ((if ds.isEmpty then [] else '.' :: ds) ++ rest) = some (ds, rest) := by
  cases ds with
  | nil =>
    rw [List.isEmpty_nil, if_pos rfl, List.nil_append, scanFraction.eq_def]
    split
    · exact absurd rfl ((ends '.' rfl).2 rfl)
    · rfl
  | cons d ds =>
    rw [List.isEmpty_cons, if_neg Bool.false_ne_true, List.cons_append, scanFraction,
      Decimal.spanDigits_of_digits digits fun c first => (ends c first).1]

lemma scanSign_of_spells {negative : Bool} {sign : List Char} (signed : SpellsSign negative sign)
    (digit : ∃ c ∈ rest.head?, c.isDigit = true) : scanSign (sign ++ rest) = (negative, rest) := by
  cases signed with
  | absent =>
    obtain ⟨c, first, isDigit⟩ := digit
    rw [List.nil_append, scanSign.eq_def]
    split
    · cases first
      cases isDigit
    · cases first
      cases isDigit
    · rfl
  | plus => rfl
  | minus => rfl

lemma scanPower_of_spells {negative : Bool} {sign ds : List Char}
    (signed : SpellsSign negative sign) (digits : AreDigits ds)
    (ends : ∀ c ∈ rest.head?, c.isDigit = false) :
    scanPower (sign ++ ds ++ rest) =
      some (if negative then -(Decimal.value ds : Int) else Decimal.value ds, rest) := by
  obtain ⟨d, ds', shape⟩ := List.exists_cons_of_ne_nil digits.1
  have digit : ∃ c ∈ (ds ++ rest).head?, c.isDigit = true := by
    refine ⟨d, by rw [shape]; rfl, digits.2 d ?_⟩
    rw [shape]
    exact List.mem_cons_self
  rw [List.append_assoc, scanPower.eq_def, scanSign_of_spells signed digit,
    Decimal.spanDigits_of_digits digits.2 ends]
  split
  · rename_i same
    exact absurd (congrArg Prod.fst same) digits.1
  · rename_i same
    cases same
    rfl

lemma scanExponent_of_spells {e : Option Int} {tail : List Char} (power : SpellsExponent e tail)
    (ends : ∀ c ∈ rest.head?, c.isDigit = false ∧ (e = none → c ≠ 'e' ∧ c ≠ 'E')) :
    scanExponent (tail ++ rest) = some (e, rest) := by
  cases power with
  | absent =>
    rw [List.nil_append, scanExponent.eq_def]
    split
    · exact absurd rfl ((ends 'e' rfl).2 rfl).1
    · exact absurd rfl ((ends 'E' rfl).2 rfl).2
    · rfl
  | present letter signed digits =>
    have found := scanPower_of_spells signed digits fun c first => (ends c first).1
    rcases letter with rfl | rfl
    · rw [List.cons_append, scanExponent, found, Option.map_some]
    · rw [List.cons_append, scanExponent, found, Option.map_some]

/-- Neither an exponent nor what follows a number continues a fraction. -/
lemma ends_fraction {n : Number} {tail : List Char} (power : SpellsExponent n.exponent tail)
    (ends : n.EndsAt rest) :
    ∀ c ∈ (tail ++ rest).head?, c.isDigit = false ∧ (n.fraction = [] → c ≠ '.') := by
  intro c first
  cases shape : n.exponent with
  | none =>
    rw [shape] at power
    cases power
    exact ⟨(ends c first).1, fun whole => (ends c first).2.2 whole shape⟩
  | some e =>
    rw [shape] at power
    cases power with
    | present letter signed digits =>
      cases first
      rcases letter with rfl | rfl
      · exact ⟨rfl, fun _ => by decide⟩
      · exact ⟨rfl, fun _ => by decide⟩

lemma ends_whole {n : Number} {tail : List Char} (power : SpellsExponent n.exponent tail)
    (ends : n.EndsAt rest) :
    ∀ c ∈ ((if n.fraction.isEmpty then [] else '.' :: n.fraction) ++ (tail ++ rest)).head?,
      c.isDigit = false := by
  intro c first
  cases shape : n.fraction with
  | nil =>
    rw [shape] at first
    exact (ends_fraction power ends c first).1
  | cons d ds =>
    rw [shape] at first
    cases first
    decide

/-- A number is found again where nothing follows that could continue it. -/
lemma scan_of_spells {n : Number} {cs : List Char} (spelled : SpellsNumber n cs)
    (ends : n.EndsAt rest) : scan (cs ++ rest) = some (n, rest) := by
  cases spelled with
  | @parts negative whole fraction tail exponent digits front behindPoint power =>
    have unsigned : scanUnsigned negative
        (whole ++ ((if fraction.isEmpty then [] else '.' :: fraction) ++ (tail ++ rest))) =
        some (⟨negative, whole, fraction, exponent⟩, rest) := by
      simp only [scanUnsigned, scanWhole_of_digits digits front (ends_whole power ends),
        scanFraction_of_digits behindPoint (ends_fraction power ends),
        scanExponent_of_spells power fun c first => ⟨(ends c first).1, (ends c first).2.1⟩,
        Option.bind_eq_bind, Option.bind_some]
    simp only [List.append_assoc]
    cases negative with
    | true => exact unsigned
    | false =>
      obtain ⟨d, ds, shape⟩ := List.exists_cons_of_ne_nil digits.1
      have isDigit : d.isDigit = true := digits.2 d (by rw [shape]; exact List.mem_cons_self)
      rw [if_neg Bool.false_ne_true, List.nil_append, scan.eq_def]
      split
      · rename_i same
        rw [shape, List.cons_append, List.cons.injEq] at same
        rw [same.1] at isDigit
        cases isDigit
      · exact unsigned

lemma write_ofInt (i : Int) :
    (ofInt i).write = (if i < 0 then ['-'] else []) ++ Decimal.digits i.natAbs := by
  simp [ofInt, write]

lemma spells_ofInt (i : Int) : SpellsNumber (ofInt i) (ofInt i).write := by
  have front : Decimal.digits i.natAbs = ['0'] ∨ (Decimal.digits i.natAbs).head? ≠ some '0' := by
    rcases Nat.eq_zero_or_pos i.natAbs with zero | positive
    · rw [zero]
      exact .inl rfl
    · exact .inr (Decimal.head?_digits positive)
  have spelled : SpellsNumber (ofInt i) _ :=
    .parts (areDigits_digits i.natAbs) front (by simp) .absent
  rw [write_ofInt]
  simpa [ofInt] using spelled

end Number
end Json
end Countinghouse
