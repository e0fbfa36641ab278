import Countinghouse.Proofs.Json.Beginning
import Countinghouse.Proofs.Person.Shapes
import Mathlib.Data.List.Find
import Mathlib.Data.List.Nodup

/-!
What is wrong with the text of a person. The text is read from left to right, and the first thing
that cannot belong to a person is reported, whatever stands behind it: a key that comes again, a
value that does not suit its key, or a brace that closes the object too early.
-/
namespace Countinghouse

open Json

/-- A value with this lead is of the type that goes under the key. -/
structure Suits (key : String) (lead : Lead) : Prop where
  id : key = "id" → ∃ n : Int, lead = .number (.whole n) ∧ -2 ^ 63 ≤ n ∧ n < 2 ^ 63
  name : key = "name" → ∃ s, lead = .text s
  desk : key = "desk" → lead = .null ∨ ∃ s, lead = .text s

/-- What is reported of a value that does not suit its key. -/
def complaint (key : String) (lead : Lead) : Problem :=
  if key = "id" then
    match lead with
    | .number (.whole n) => .outOfRange n
    | lead => .wrongType lead "i64"
  else .wrongType lead "a string"

/-- A reader of leads that takes what suits the key and complains of all else. -/
def Judges {β : Type} (key : String) (read : Lead → Except Problem β) : Prop :=
  ∀ lead, (Suits key lead ∧ ∃ b, read lead = .ok b) ∨
    (¬ Suits key lead ∧ read lead = .error (complaint key lead))

lemma judges_int64 : Judges "id" Lead.int64 := by
  intro lead
  by_cases whole : ∃ n : Int, lead = .number (.whole n)
  · obtain ⟨n, rfl⟩ := whole
    by_cases bounds : Int64.minValue.toInt ≤ n ∧ n ≤ Int64.maxValue.toInt
    · have suits : Suits "id" (.number (.whole n)) :=
        ⟨fun _ => ⟨n, rfl, bounds.1, Int.lt_add_one_of_le bounds.2⟩, nofun, nofun⟩
      exact .inl ⟨suits, _, if_pos bounds⟩
    · refine .inr ⟨fun suits => bounds ?_, if_neg bounds⟩
      obtain ⟨m, same, low, high⟩ := suits.id rfl
      cases same
      exact ⟨low, Int.le_of_lt_add_one high⟩
  · refine .inr ⟨fun suits => whole ?_, ?_⟩
    · obtain ⟨n, same, -⟩ := suits.id rfl
      exact ⟨n, same⟩
    · cases lead with
      | number n =>
        cases n with
        | whole n => exact absurd ⟨n, rfl⟩ whole
        | real x => rfl
      | _ => rfl

lemma judges_string : Judges "name" Lead.string := by
  intro lead
  by_cases text : ∃ s, lead = .text s
  · obtain ⟨s, rfl⟩ := text
    exact .inl ⟨⟨nofun, fun _ => ⟨s, rfl⟩, nofun⟩, s, rfl⟩
  · refine .inr ⟨fun suits => text (suits.name rfl), ?_⟩
    cases lead with
    | text s => exact absurd ⟨s, rfl⟩ text
    | _ => rfl

lemma judges_optionalString : Judges "desk" Lead.optionalString := by
  intro lead
  by_cases none : lead = .null
  · subst none
    exact .inl ⟨⟨nofun, nofun, fun _ => .inl rfl⟩, _, rfl⟩
  · by_cases text : ∃ s, lead = .text s
    · obtain ⟨s, rfl⟩ := text
      exact .inl ⟨⟨nofun, nofun, fun _ => .inr ⟨s, rfl⟩⟩, _, rfl⟩
    · refine .inr ⟨fun suits => (suits.desk rfl).elim none text, ?_⟩
      cases lead with
      | null => exact absurd rfl none
      | text s => exact absurd ⟨s, rfl⟩ text
      | _ => rfl

/-- No known key comes twice, and every value of a known key suits it. -/
structure AreGood (known : List String) (ms : List (String × Value)) : Prop where
  once : ∀ key ∈ known, (valuesOf key ms).length ≤ 1
  suited : ∀ key v, (key, v) ∈ ms → key ∈ known → ∃ lead, v.lead? = some lead ∧ Suits key lead

lemma AreGood.tail {known : List String} {key : String} {v : Value} {ms : List (String × Value)}
    (good : AreGood known ((key, v) :: ms)) : AreGood known ms where
  once k isKnown := by
    have once := good.once k isKnown
    by_cases same : key = k
    · subst same
      rw [valuesOf_cons_self, List.length_cons] at once
      omega
    · rwa [valuesOf_cons_of_ne same] at once
  suited k w member := good.suited k w (List.mem_cons_of_mem _ member)

namespace Json

variable {δ α : Type}

/-- Among these fields this one takes what suits its key, fills no other field, and complains of all
else. -/
structure Field.IsOneOf (f : Field δ) (fields : List (Field δ)) : Prop where
  takes {lead : Lead} (draft : δ) (suits : Suits f.key lead) :
    ∃ draft', f.fill lead draft = .ok draft' ∧
      ∀ g ∈ fields, g.isFilled draft' = true ↔ g.isFilled draft = true ∨ g.key = f.key
  refuses {lead : Lead} (draft : δ) (misfit : ¬ Suits f.key lead) :
    f.fill lead draft = .error (complaint f.key lead)

lemma Field.Fills.isOneOf {β : Type} {f : Field δ} {fields : List (Field δ)}
    {read : Lead → Except Problem β} {set : β → δ → δ} (fills : f.Fills read set)
    (judges : Judges f.key read)
    (sets : ∀ b draft, ∀ g ∈ fields,
      g.isFilled (set b draft) = true ↔ g.isFilled draft = true ∨ g.key = f.key) :
    f.IsOneOf fields where
  takes {lead} draft suits := by
    obtain ⟨-, b, found⟩ | ⟨misfit, -⟩ := judges lead
    · refine ⟨set b draft, ?_, sets b draft⟩
      rw [fills, found]
      rfl
    · exact absurd suits misfit
  refuses {lead} draft misfit := by
    obtain ⟨suits, -⟩ | ⟨-, refused⟩ := judges lead
    · exact absurd suits misfit
    · rw [fills, refused]
      rfl

/-- The draft holds a value under this key. -/
def Record.has (r : Record δ α) (draft : δ) (key : String) : Bool :=
  r.fields.any fun f => f.key == key && f.isFilled draft

lemma Record.has_iff {r : Record δ α} {draft : δ} {key : String} :
    r.has draft key = true ↔ ∃ f ∈ r.fields, f.key = key ∧ f.isFilled draft = true := by
  simp only [has, List.any_eq_true, Bool.and_eq_true, beq_iff_eq]

lemma Record.field?_eq_some {r : Record δ α} {key : String} {f : Field δ}
    (found : r.field? key = some f) : f ∈ r.fields ∧ f.key = key := by
  obtain ⟨hit, before, after, whole, -⟩ := List.find?_eq_some_iff_append.1 found
  refine ⟨?_, beq_iff_eq.1 hit⟩
  rw [whole]
  exact List.mem_append_right before List.mem_cons_self

end Json

/-- The keys that nobody goes without, in the order in which they are missed. -/
def required : List String := ["id", "name"]

/-- The record has just the known keys, each of its fields does what it should, and it is complete
with the required ones. -/
structure Serves {δ α : Type} (r : Record δ α) (known : List String) : Prop where
  scalars : r.TakesScalars
  keys : r.fields.map (·.key) = known
  distinct : known.Nodup
  blank : ∀ f ∈ r.fields, f.isFilled r.blank = false
  fields : ∀ f ∈ r.fields, f.IsOneOf r.fields
  needed : ∀ key ∈ required, key ∈ known
  lacks : ∀ key draft, required.find? (!r.has draft ·) = some key →
    r.complete draft = .error (.missing key)
  completes : ∀ draft, required.find? (!r.has draft ·) = none → ∃ a, r.complete draft = .ok a

namespace Serves

variable {δ α : Type} {r : Record δ α} {known : List String} {draft : δ} {key : String}
  {ms : List (String × Value)}

lemma exists_field?_iff (serves : Serves r known) :
    key ∈ known ↔ ∃ f, r.field? key = some f := by
  rw [← serves.keys, List.mem_map, ← Option.isSome_iff_exists, Record.field?, List.find?_isSome]
  simp only [beq_iff_eq]

/-- A key has one field, so that field tells whether there is a value under the key. -/
lemma isFilled_eq_has (serves : Serves r known) {f : Json.Field δ} (field : r.field? key = some f)
    (draft : δ) : f.isFilled draft = r.has draft key := by
  obtain ⟨member, rfl⟩ := Record.field?_eq_some field
  have nodup := serves.distinct
  rw [← serves.keys] at nodup
  rw [Bool.eq_iff_iff, Record.has_iff]
  refine ⟨fun filled => ⟨f, member, rfl, filled⟩, ?_⟩
  rintro ⟨g, member', same, filled⟩
  rwa [← List.inj_on_of_nodup_map nodup member' member same]

lemma has_blank (serves : Serves r known) (key : String) : r.has r.blank key = false := by
  rw [← Bool.not_eq_true, Record.has_iff]
  rintro ⟨f, member, -, filled⟩
  rw [serves.blank f member] at filled
  cases filled

lemma absorb_of_unknown (serves : Serves r known) (unknown : key ∉ known) (draft : δ) (v : Value) :
    r.absorb draft key v = .ok draft := by
  cases field : r.field? key with
  | none => exact Record.absorb_of_unknown field draft v
  | some f => exact absurd (serves.exists_field?_iff.2 ⟨f, field⟩) unknown

lemma exists_absorb_of_known (serves : Serves r known) (isKnown : key ∈ known)
    (unseen : r.has draft key = false) {v : Value} {lead : Lead} (found : v.lead? = some lead)
    (suits : Suits key lead) :
    ∃ draft', r.absorb draft key v = .ok draft' ∧
      ∀ k, r.has draft' k = true ↔ r.has draft k = true ∨ k = key := by
  obtain ⟨f, field⟩ := serves.exists_field?_iff.1 isKnown
  obtain ⟨member, rfl⟩ := Record.field?_eq_some field
  obtain ⟨draft', filled, fills⟩ := (serves.fields f member).takes draft suits
  have empty : f.isFilled draft = false := by rw [serves.isFilled_eq_has field, unseen]
  refine ⟨draft', ?_, fun k => ?_⟩
  · simp only [Record.absorb, field, empty, Field.take, found, filled]
    rfl
  · rw [Record.has_iff, Record.has_iff]
    constructor
    · rintro ⟨g, member', rfl, holds⟩
      exact ((fills g member').1 holds).imp_left fun held => ⟨g, member', rfl, held⟩
    · rintro (⟨g, member', same, held⟩ | rfl)
      · exact ⟨g, member', same, (fills g member').2 (.inl held)⟩
      · exact ⟨f, member, rfl, (fills f member).2 (.inr rfl)⟩

/-- Good members are all absorbed, and of the known keys the draft then holds theirs as well. -/
lemma exists_absorbAll (serves : Serves r known) (good : AreGood known ms)
    (fresh : ∀ k ∈ known, r.has draft k = true → valuesOf k ms = []) :
    ∃ draft', r.absorbAll draft ms = .ok draft' ∧
      ∀ k ∈ known, r.has draft' k = true ↔ r.has draft k = true ∨ k ∈ ms.map (·.1) := by
  induction ms generalizing draft with
  | nil => exact ⟨draft, rfl, by simp⟩
  | cons m ms ih =>
    obtain ⟨key, v⟩ := m
    by_cases isKnown : key ∈ known
    · obtain ⟨lead, found, suits⟩ := good.suited key v List.mem_cons_self isKnown
      have unseen : r.has draft key = false := by
        by_contra seen
        have none := fresh key isKnown (by simpa using seen)
        rw [valuesOf_cons_self] at none
        cases none
      obtain ⟨next, absorbed, has⟩ := serves.exists_absorb_of_known isKnown unseen found suits
      have fresh' : ∀ k ∈ known, r.has next k = true → valuesOf k ms = [] := by
        intro k listed holds
        by_cases same : key = k
        · subst same
          have once := good.once key isKnown
          rw [valuesOf_cons_self, List.length_cons] at once
          exact List.length_eq_zero_iff.1 (by omega)
        · have none := fresh k listed (((has k).1 holds).resolve_right (Ne.symm same))
          rwa [valuesOf_cons_of_ne same] at none
      obtain ⟨draft', all, has'⟩ := ih good.tail fresh'
      refine ⟨draft', ?_, fun k listed => ?_⟩
      · rw [Record.absorbAll, absorbed]
        exact all
      · rw [has' k listed, has, List.map_cons, List.mem_cons, or_assoc]
    · have fresh' : ∀ k ∈ known, r.has draft k = true → valuesOf k ms = [] := by
        intro k listed holds
        have none := fresh k listed holds
        rwa [valuesOf_cons_of_ne (by rintro rfl; exact isKnown listed)] at none
      obtain ⟨draft', all, has'⟩ := ih good.tail fresh'
      refine ⟨draft', ?_, fun k listed => ?_⟩
      · rw [Record.absorbAll, serves.absorb_of_unknown isKnown]
        exact all
      · have other : k ≠ key := by
          rintro rfl
          exact isKnown listed
        rw [has' k listed, List.map_cons, List.mem_cons, or_iff_right other]

/-- Behind good members the reader holds their keys, whatever it meets there. -/
lemma exists_read_of_begins (serves : Serves r known) {text : String} {tail : List Char}
    (begins : Begins text ms tail) (good : AreGood known ms) (ends : ms ≠ [] → Number.Ends tail) :
    ∃ draft, r.read text.toList = r.members ms.isEmpty draft tail ∧
      ∀ k ∈ known, r.has draft k = true ↔ k ∈ ms.map (·.1) := by
  have fresh : ∀ k ∈ known, r.has r.blank k = true → valuesOf k ms = [] := by
    intro k _ holds
    rw [serves.has_blank] at holds
    cases holds
  obtain ⟨draft, absorbed, has⟩ := serves.exists_absorbAll good fresh
  refine ⟨draft, Record.read_of_begins serves.scalars begins ends absorbed, fun k listed => ?_⟩
  rw [has k listed, serves.has_blank, or_iff_right Bool.false_ne_true]

lemma find?_required (serves : Serves r known)
    (has : ∀ k ∈ known, r.has draft k = true ↔ k ∈ ms.map (·.1)) :
    required.find? (!r.has draft ·) = required.find? (· ∉ ms.map (·.1)) := by
  apply List.find?_congr
  intro k member
  rw [Bool.eq_iff_iff, Bool.not_eq_true', decide_eq_true_iff, ← Bool.not_eq_true,
    has k (serves.needed k member)]

end Serves

/-- Behind good members the next thing decides, whatever stands behind it. A known key that was
there is reported as soon as its quote is closed, a value that does not suit its key as soon as that
can be told, and a required key that is missing at the closing brace; if none is missing, all is
well up to there. -/
structure FirstDecides {α : Type} (decode : String → Except Problem α) (known : List String) :
    Prop where
  duplicate {text : String} {ms : List (String × Value)} {link name rest : List Char} {key : String}
    (begins : Begins text ms (link ++ (name ++ rest))) (good : AreGood known ms)
    (linked : SpellsLink ms.isEmpty link) (named : SpellsText key name) (isKnown : key ∈ known)
    (seen : key ∈ ms.map (·.1)) : decode text = .error (.duplicate key)
  misfit {text : String} {ms : List (String × Value)} {link name gap gap' cs rest : List Char}
    {key : String} {lead : Lead}
    (begins : Begins text ms (link ++ (name ++ (gap ++ ':' :: (gap' ++ (cs ++ rest))))))
    (good : AreGood known ms) (linked : SpellsLink ms.isEmpty link) (named : SpellsText key name)
    (isKnown : key ∈ known) (unseen : key ∉ ms.map (·.1)) (blank : IsGap gap) (blank' : IsGap gap')
    (spelled : SpellsLead lead cs rest) (misfit : ¬ Suits key lead) :
    decode text = .error (complaint key lead)
  missing {text : String} {ms : List (String × Value)} {gap rest : List Char} {key : String}
    (begins : Begins text ms (gap ++ '\x7d' :: rest)) (good : AreGood known ms) (blank : IsGap gap)
    (first : required.find? (· ∉ ms.map (·.1)) = some key) : decode text = .error (.missing key)
  complete {text : String} {ms : List (String × Value)} {gap rest : List Char}
    (begins : Begins text ms (gap ++ '\x7d' :: rest)) (good : AreGood known ms) (blank : IsGap gap)
    (present : ∀ key ∈ required, key ∈ ms.map (·.1)) :
    ∃ a, decode text = if (skipSpace rest).isEmpty then .ok a else .error .malformed

namespace Json

lemma ends_of_link_of_ne_nil {ms : List (String × Value)} {link : List Char}
    (linked : SpellsLink ms.isEmpty link) (rest : List Char) (some : ms ≠ []) :
    Number.Ends (link ++ rest) := by
  cases ms with
  | nil => exact absurd rfl some
  | cons m ms => exact ends_of_link linked rest

namespace Record

variable {δ α : Type} {r : Record δ α}

lemma readAll_of_error {text : String} {p : Problem} (failed : r.read text.toList = .error p) :
    readAll r.read text = .error p := by
  rw [readAll, failed]

end Record
end Json

lemma Serves.firstDecides {δ α : Type} {r : Record δ α} {known : List String}
    (serves : Serves r known) : FirstDecides (readAll r.read) known where
  duplicate {text ms link name rest key} begins good linked named isKnown seen := by
    obtain ⟨draft, read, has⟩ :=
      serves.exists_read_of_begins begins good (ends_of_link_of_ne_nil linked _)
    obtain ⟨f, field⟩ := serves.exists_field?_iff.1 isKnown
    have filled : f.isFilled draft = true := by
      rw [serves.isFilled_eq_has field, has key isKnown]
      exact seen
    apply Record.readAll_of_error
    rw [read, Record.members_of_filled linked named field filled, (Record.field?_eq_some field).2]
  misfit {text ms link name gap gap' cs rest key lead} begins good linked named isKnown unseen blank
      blank' spelled misfit := by
    obtain ⟨draft, read, has⟩ :=
      serves.exists_read_of_begins begins good (ends_of_link_of_ne_nil linked _)
    obtain ⟨f, field⟩ := serves.exists_field?_iff.1 isKnown
    obtain ⟨member, rfl⟩ := Record.field?_eq_some field
    have empty : f.isFilled draft = false := by
      rw [serves.isFilled_eq_has field, ← Bool.not_eq_true, has f.key isKnown]
      exact unseen
    apply Record.readAll_of_error
    rw [read, Record.members_of_refused linked named field empty blank blank' spelled
      ((serves.fields f member).refuses draft misfit)]
  missing {text ms gap rest key} begins good blank first := by
    obtain ⟨draft, read, has⟩ :=
      serves.exists_read_of_begins begins good fun _ => ends_gap blank (ends_cons (by decide) rest)
    apply Record.readAll_of_error
    rw [← serves.find?_required has] at first
    rw [read, Record.members_of_close blank, serves.lacks key draft first]
    rfl
  complete {text ms gap rest} begins good blank present := by
    obtain ⟨draft, read, has⟩ :=
      serves.exists_read_of_begins begins good fun _ => ends_gap blank (ends_cons (by decide) rest)
    have none : required.find? (!r.has draft ·) = none := by
      rw [serves.find?_required has, List.find?_eq_none]
      intro key member
      simpa using present key member
    obtain ⟨a, completed⟩ := serves.completes draft none
    refine ⟨a, ?_⟩
    rw [readAll, read, Record.members_of_close blank, completed]
    rfl

namespace Customer

lemma serves : Serves record ["id", "name"] where
  scalars := takesScalars
  keys := rfl
  distinct := by decide
  blank f member := by
    simp only [record, List.mem_cons, List.not_mem_nil, or_false] at member
    rcases member with rfl | rfl <;> rfl
  fields f member := by
    simp only [record, List.mem_cons, List.not_mem_nil, or_false] at member
    rcases member with rfl | rfl
    · exact idField_fills.isOneOf judges_int64 fun b draft => by simp [record, idField, nameField]
    · exact nameField_fills.isOneOf judges_string fun b draft => by
        simp [record, idField, nameField]
  needed key member := member
  lacks key draft first := by
    obtain ⟨id, name⟩ := draft
    cases id with
    | none =>
      cases first
      rfl
    | some id =>
      cases name with
      | none =>
        cases first
        rfl
      | some name => cases first
  completes draft none := by
    obtain ⟨id, name⟩ := draft
    cases id with
    | none => cases none
    | some id =>
      cases name with
      | none => cases none
      | some name => exact ⟨_, rfl⟩

end Customer

namespace Teller

lemma serves : Serves record ["id", "name", "desk"] where
  scalars := takesScalars
  keys := rfl
  distinct := by decide
  blank f member := by
    simp only [record, List.mem_cons, List.not_mem_nil, or_false] at member
    rcases member with rfl | rfl | rfl <;> rfl
  fields f member := by
    simp only [record, List.mem_cons, List.not_mem_nil, or_false] at member
    rcases member with rfl | rfl | rfl
    · exact idField_fills.isOneOf judges_int64 fun b draft => by
        simp [record, idField, nameField, deskField]
    · exact nameField_fills.isOneOf judges_string fun b draft => by
        simp [record, idField, nameField, deskField]
    · exact deskField_fills.isOneOf judges_optionalString fun b draft => by
        simp [record, idField, nameField, deskField]
  needed key member := List.mem_append_left ["desk"] member
  lacks key draft first := by
    obtain ⟨id, name, desk⟩ := draft
    cases id with
    | none =>
      cases first
      rfl
    | some id =>
      cases name with
      | none =>
        cases first
        rfl
      | some name => cases first
  completes draft none := by
    obtain ⟨id, name, desk⟩ := draft
    cases id with
    | none => cases none
    | some id =>
      cases name with
      | none => cases none
      | some name => exact ⟨_, rfl⟩

end Teller

lemma message?_complaint_whole (n : Int) :
    (complaint "id" (.number (.whole n))).message? =
      some ("invalid value: integer `" ++ String.ofList (Decimal.numeral n) ++
        "`, expected i64") := by
  simp only [complaint, if_true, Problem.message?, Problem.ticked, String.append_assoc]
  rfl

lemma complaint_of_not_whole {key : String} {lead : Lead}
    (other : key = "id" → ∀ n, lead ≠ .number (.whole n)) :
    complaint key lead = .wrongType lead (if key = "id" then "i64" else "a string") := by
  by_cases isId : key = "id"
  · simp only [complaint, if_pos isId]
    split
    · exact absurd rfl (other isId _)
    · rfl
  · simp only [complaint, if_neg isId]

/-- In a text that begins like a person, the first thing that is wrong is the answer, and what
stands behind it is of no account. Each of these answers describes the thing itself, and none is
that the text is malformed. -/
theorem first_problem_decides :
    FirstDecides Customer.codec.decode ["id", "name"] ∧
    FirstDecides Teller.codec.decode ["id", "name", "desk"] ∧
    (∀ key, (Problem.duplicate key).message? = some ("duplicate field `" ++ key ++ "`") ∧
      (Problem.missing key).message? = some ("missing field `" ++ key ++ "`")) ∧
    (∀ n : Int, (complaint "id" (.number (.whole n))).message? =
      some ("invalid value: integer `" ++ String.ofList (Decimal.numeral n) ++ "`, expected i64")) ∧
    (∀ key lead, (key = "id" → ∀ n, lead ≠ .number (.whole n)) →
      (complaint key lead).message? = some ("invalid type: " ++ lead.describe ++ ", expected " ++
        if key = "id" then "i64" else "a string")) ∧
    (∀ key lead, (Problem.duplicate key).isSyntactic = false ∧
      (Problem.missing key).isSyntactic = false ∧ (complaint key lead).isSyntactic = false) := by
  refine ⟨Customer.serves.firstDecides, Teller.serves.firstDecides, fun key => ?_,
    message?_complaint_whole, fun key lead other => ?_, fun key lead => ⟨rfl, rfl, ?_⟩⟩
  · simp only [Problem.message?, Problem.ticked, ← String.append_assoc]
    exact ⟨rfl, rfl⟩
  · rw [complaint_of_not_whole other]
    rfl
  · by_cases whole : key = "id" ∧ ∃ n, lead = .number (.whole n)
    · obtain ⟨rfl, n, rfl⟩ := whole
      rfl
    · have other : key = "id" → ∀ n, lead ≠ .number (.whole n) :=
        fun isId n shape => whole ⟨isId, n, shape⟩
      rw [complaint_of_not_whole other]
      rfl

/-- Three texts with one member that goes well, a first problem, and worse behind it. -/
theorem doubly_broken_people_refused :
    let five : Lead := .number (.whole 5)
    Customer.codec.decode "\x7b\"id\":1,\"id\"nonsense" = .error (.duplicate "id") ∧
    Teller.codec.decode "\x7b\"id\":1,\"desk\":5x" = .error (complaint "desk" five) ∧
    (complaint "desk" five).message? = some "invalid type: integer `5`, expected a string" ∧
    Customer.codec.decode "\x7b\"id\":1\x7d,\x7b" = .error (.missing "name") := by
  intro five
  obtain ⟨customers, tellers, -, -, saying, -⟩ := first_problem_decides
  have none : IsGap [] := by simp [IsGap]
  have plain (s : String) : SpellsText s _ := .quoted (spells_escape s.toList)
  have member : SpellsMember "id" (.int 1) _ :=
    .member (plain "id") none none (.number (Number.spells_ofInt 1))
  have members : SpellsOpen true [("id", .int 1)] _ := .cons (.first none) member .nil
  have good (known : List String) : AreGood known [("id", .int 1)] := by
    refine ⟨fun key _ => ?_, fun key v isMember _ => ?_⟩
    · rw [valuesOf, List.length_map]
      exact List.length_filter_le _ _
    · obtain ⟨rfl, rfl⟩ := Prod.mk.inj (List.mem_singleton.1 isMember)
      refine ⟨.number (.whole 1), rfl, fun _ => ⟨1, rfl, by decide, by decide⟩, ?_, ?_⟩
      · exact fun same => absurd same (by decide)
      · exact fun same => absurd same (by decide)
  have comma : SpellsLink false [','] := .later none none
  have lead : SpellsLead five ['5'] ['x'] := by
    refine .scalar (v := .int 5) trivial rfl (.number (Number.spells_ofInt 5)) ?_
    rintro n - c ⟨⟩
    exact ⟨by decide, fun _ => ⟨by decide, by decide⟩, fun _ _ => by decide⟩
  have misfit : ¬ Suits "desk" five := by
    intro suits
    obtain shape | ⟨s, shape⟩ := suits.desk rfl
    · cases show Lead.number (.whole 5) = .null from shape
    · cases show Lead.number (.whole 5) = .text s from shape
  refine ⟨?_, ?_, ?_, ?_⟩
  · exact customers.duplicate (.within none members rfl) (good _) comma (plain "id")
      (by decide) (by decide)
  · exact tellers.misfit (.within none members (by decide)) (good _) comma (plain "desk")
      (by decide) (by decide) none none lead misfit
  · exact saying "desk" five fun same => absurd same (by decide)
  · exact customers.missing (.within none members rfl) (good _) none (by decide)

end Countinghouse
