import Countinghouse.Proofs.Json.Reading
import Mathlib.Algebra.Ring.Int.Defs

/-!
Fields filled from the values of their keys. A field suits one form of value, it is filled by the
one member of its key, wherever that stands, or by the item in its place, and members of other keys
pass by.
-/
namespace Countinghouse.Json

/-- An integer is spelt without a fraction and without an exponent, and zero without a sign. -/
structure Number.Denotes (n : Number) (i : Int) : Prop where
  fraction : n.fraction = []
  exponent : n.exponent = none
  plainZero : n.negative → i ≠ 0
  value : i = if n.negative then -(Decimal.value n.whole : Int) else Decimal.value n.whole

def Value.IsInteger (v : Value) (i : Int64) : Prop := ∃ n, v = number n ∧ n.Denotes i.toInt

/-- What is read from the lead of a value. -/
def Value.as {β : Type} (v : Value) (read : Lead → Except Problem β) : Except Problem β :=
  match v.lead? with
  | some lead => read lead
  | none => .error .malformed

/-- The field sets what it reads from a lead. -/
def Field.Fills {δ β : Type} (f : Field δ) (read : Lead → Except Problem β) (set : β → δ → δ) :
    Prop :=
  ∀ lead draft, f.fill lead draft = (read lead).map (set · draft)

lemma Field.Fills.take {δ β : Type} {f : Field δ} {read : Lead → Except Problem β}
    {set : β → δ → δ} (fills : f.Fills read set) (v : Value) (draft : δ) :
    f.take v draft = (v.as read).map (set · draft) := by
  rw [Field.take, Value.as]
  cases v.lead? with
  | none => rfl
  | some lead => exact fills lead draft

lemma Number.value?_whole_iff {n : Number} {i : Int} :
    n.value? = some (.whole i) ↔ n.Denotes i ∧ -2 ^ 63 ≤ i ∧ i < 2 ^ 64 := by
  have whole : n.isWhole = true ↔ n.fraction = [] ∧ n.exponent = none := by
    simp [isWhole]
  constructor
  · intro read
    simp only [value?, Nat.pow_eq] at read
    split at read
    · rename_i plain
      obtain ⟨isWhole, sign, small⟩ := plain
      have positive : n.negative = false := by simpa using sign
      cases read
      refine ⟨⟨(whole.1 isWhole).1, (whole.1 isWhole).2, by simp [positive], by simp [positive]⟩,
        ?_⟩
      omega
    · split at read
      · rename_i signed
        obtain ⟨isWhole, sign, positive, small⟩ := signed
        cases read
        refine ⟨⟨(whole.1 isWhole).1, (whole.1 isWhole).2, ?_, by simp [sign]⟩, ?_⟩
        · omega
        · omega
      · obtain ⟨x, -, same⟩ := Option.map_eq_some_iff.1 read
        cases same
  · rintro ⟨⟨fraction, exponent, plainZero, value⟩, low, high⟩
    have isWhole := whole.2 ⟨fraction, exponent⟩
    simp only [value?, Nat.pow_eq]
    cases sign : n.negative with
    | false =>
      rw [sign, if_neg Bool.false_ne_true] at value
      rw [if_pos ⟨isWhole, by simp, by omega⟩, value]
    | true =>
      rw [sign, if_pos rfl] at value
      have nonzero := plainZero sign
      rw [if_neg (by simp), if_pos ⟨isWhole, rfl, by omega, by omega⟩, value]

namespace Value

lemma as_int64_eq_ok_iff {v : Value} {i : Int64} : v.as Lead.int64 = .ok i ↔ v.IsInteger i := by
  constructor
  · intro read
    cases v with
    | number n =>
      cases found : n.value? with
      | none =>
        simp only [as, lead?, found] at read
        cases read
      | some m =>
        cases m with
        | real x =>
          simp only [as, lead?, found] at read
          cases read
        | whole k =>
          simp only [as, lead?, found, Option.map_some, Lead.int64] at read
          split at read
          · rename_i range
            cases read
            refine ⟨n, rfl, ?_⟩
            rw [Int64.toInt_ofInt_of_le range.1 (Int.lt_add_one_of_le range.2)]
            exact (Number.value?_whole_iff.1 found).1
          · cases read
    | _ => cases read
  · rintro ⟨n, rfl, denotes⟩
    have range := i.toInt_lt
    have found := Number.value?_whole_iff.2 ⟨denotes, i.le_toInt, by omega⟩
    have bounds : Int64.minValue.toInt ≤ i.toInt ∧ i.toInt ≤ Int64.maxValue.toInt :=
      ⟨i.minValue_le_toInt, i.toInt_le⟩
    simp only [as, lead?, found, Option.map_some, Lead.int64, if_pos bounds, Int64.ofInt_toInt]

lemma as_string_eq_ok_iff {v : Value} {s : String} : v.as Lead.string = .ok s ↔ v = text s := by
  constructor
  · intro read
    cases v with
    | text t =>
      cases read
      rfl
    | number n =>
      cases found : n.value? with
      | none =>
        simp only [as, lead?, found] at read
        cases read
      | some m =>
        simp only [as, lead?, found] at read
        cases read
    | _ => cases read
  · rintro rfl
    rfl

lemma as_optionalString_eq_ok_iff {v : Value} {s : Option String} :
    v.as Lead.optionalString = .ok s ↔ v = optionalText s := by
  constructor
  · intro read
    cases v with
    | text t =>
      cases read
      rfl
    | null =>
      cases read
      rfl
    | number n =>
      cases found : n.value? with
      | none =>
        simp only [as, lead?, found] at read
        cases read
      | some m =>
        simp only [as, lead?, found] at read
        cases read
    | _ => cases read
  · rintro rfl
    cases s <;> rfl

end Value

/-- The values of all members with this key, in their order. -/
def valuesOf (key : String) (ms : List (String × Value)) : List Value :=
  (ms.filter (·.1 = key)).map (·.2)

lemma valuesOf_cons_self (key : String) (v : Value) (ms : List (String × Value)) :
    valuesOf key ((key, v) :: ms) = v :: valuesOf key ms := by
  simp [valuesOf]

lemma valuesOf_cons_of_ne {key name : String} (other : name ≠ key) (v : Value)
    (ms : List (String × Value)) : valuesOf key ((name, v) :: ms) = valuesOf key ms := by
  simp [valuesOf, other]

/-- Both hold the same under these keys, though in any order. -/
def AgreeOn (keys : List String) (ms ms' : List (String × Value)) : Prop :=
  ∀ key ∈ keys, (valuesOf key ms).Perm (valuesOf key ms')

lemma AgreeOn.symm {keys : List String} {ms ms' : List (String × Value)}
    (agree : AgreeOn keys ms ms') : AgreeOn keys ms' ms := fun key known => (agree key known).symm

lemma AgreeOn.eq_singleton_iff {keys : List String} {ms ms' : List (String × Value)}
    (agree : AgreeOn keys ms ms') {key : String} (known : key ∈ keys) {v : Value} :
    valuesOf key ms = [v] ↔ valuesOf key ms' = [v] := by
  rw [← List.perm_singleton, ← List.perm_singleton]
  exact ⟨(agree key known).symm.trans, (agree key known).trans⟩

lemma AgreeOn.eq_nil_iff {keys : List String} {ms ms' : List (String × Value)}
    (agree : AgreeOn keys ms ms') {key : String} (known : key ∈ keys) :
    valuesOf key ms = [] ↔ valuesOf key ms' = [] := by
  rw [← List.perm_nil, ← List.perm_nil]
  exact ⟨(agree key known).symm.trans, (agree key known).trans⟩

/-- How a field that may be filled already comes to hold what it holds in the end. -/
inductive Supplied {β : Type} (read : Lead → Except Problem β) :
    Option β → List Value → Option β → Prop
  | kept (x : Option β) : Supplied read x [] x
  | given {v : Value} {b : β} (reads : v.as read = .ok b) : Supplied read none [v] (some b)

variable {β : Type} {read : Lead → Except Problem β} {x y : Option β} {v : Value}

@[simp] lemma supplied_nil : Supplied read x [] y ↔ x = y := by
  constructor
  · intro supplied
    cases supplied
    rfl
  · rintro rfl
    exact .kept x

lemma supplied_cons {vs : List Value} :
    Supplied read x (v :: vs) y ↔
      x = none ∧ ∃ b, v.as read = .ok b ∧ Supplied read (some b) vs y := by
  constructor
  · intro supplied
    cases supplied with
    | given reads => exact ⟨rfl, _, reads, .kept _⟩
  · rintro ⟨rfl, b, reads, later⟩
    cases later with
    | kept => exact .given reads

/-- A field that is empty yet is filled by one value. -/
lemma supplied_none_some_iff {vs : List Value} {b : β} :
    Supplied read none vs (some b) ↔ ∃ v, vs = [v] ∧ v.as read = .ok b := by
  constructor
  · intro supplied
    cases supplied with
    | given reads => exact ⟨_, rfl, reads⟩
  · rintro ⟨v, rfl, reads⟩
    exact .given reads

/-- A member of a known key goes into an empty field, if its value suits the field. -/
lemma Record.absorb_bind_eq_ok_iff {δ α : Type} {r : Record δ α} {f : Field δ} {key : String}
    (known : r.field? key = some f) {set : β → δ → δ}
    (fills : f.Fills read set) {draft : δ}
    {next : δ → Except Problem α} {a : α} :
    (r.absorb draft key v).bind next = .ok a ↔
      f.isFilled draft = false ∧ ∃ b, v.as read = .ok b ∧ next (set b draft) = .ok a := by
  simp only [absorb, known, fills.take]
  cases f.isFilled draft with
  | true => simp [Except.bind]
  | false =>
    cases v.as read with
    | error p => simp [Except.bind, Except.map]
    | ok b => simp [Except.bind, Except.map]

lemma Record.absorb_of_unknown {δ α : Type} {r : Record δ α} {key : String}
    (unknown : r.field? key = none) (draft : δ) (v : Value) : r.absorb draft key v = .ok draft := by
  rw [absorb, unknown]

lemma Record.ofItems_nil_eq_ok_iff {δ α : Type} {r : Record δ α} {count : Nat} {draft : δ}
    {vs : List Value} {a : α} :
    r.ofItems count draft [] vs = .ok a ↔ vs = [] ∧ r.complete draft = .ok a := by
  cases vs <;> simp [ofItems]

/-- The first item goes into the first field, if it suits the field. -/
lemma Record.ofItems_cons_eq_ok_iff {δ α : Type} {r : Record δ α} {f : Field δ}
    {set : β → δ → δ} (fills : f.Fills read set)
    {count : Nat} {draft : δ} {fs : List (Field δ)} {vs : List Value} {a : α} :
    r.ofItems count draft (f :: fs) vs = .ok a ↔
      ∃ v vs' b, vs = v :: vs' ∧ v.as read = .ok b ∧
        r.ofItems (count + 1) (set b draft) fs vs' = .ok a := by
  cases vs with
  | nil => simp [ofItems]
  | cons v vs =>
    simp only [ofItems, fills.take]
    cases reads : v.as read with
    | error p => simp [Except.bind, Except.map, reads]
    | ok b => simp [Except.bind, Except.map, reads]

lemma Record.ofValue_of_scalar_ne_ok {δ α : Type} {r : Record δ α} {a : α} (scalar : v.IsScalar) :
    r.ofValue v ≠ .ok a := by
  rw [ofValue_of_scalar r scalar]
  cases v.lead? <;> simp

end Countinghouse.Json
