import Countinghouse.Proofs.Json.Drafts
import Countinghouse.Proofs.Json.Supply
import Countinghouse.Proofs.Json.Writing
import Countinghouse.Proofs.Session.Token
import Countinghouse.Proofs.Time.Instant
import Countinghouse.Session

/-!
Sessions in JSON. However a session is spelt, it is written in one way, with its token in lower-case
groups and its time in universal time, and what is written is read back as the same session.
-/
namespace Countinghouse.Session

open Json Time

lemma tokenField_fills :
    tokenField.Fills (Lead.spelled Token.ofText? "a formatted UUID string")
      fun token d => { d with token := some token } := by
  intro lead d
  simp only [tokenField]
  cases lead.spelled Token.ofText? "a formatted UUID string" <;> rfl

lemma openedAtField_fills :
    openedAtField.Fills
      (Lead.spelled Instant.ofText? "an RFC 3339 formatted date and time string")
      fun t d => { d with openedAt := some t } := by
  intro lead d
  simp only [openedAtField]
  cases lead.spelled Instant.ofText? "an RFC 3339 formatted date and time string" <;> rfl

/-- The time of opening is valid, if it is filled in. -/
def Draft.Valid (d : Draft) : Prop := ∀ t, d.openedAt = some t → t.Valid

lemma exists_of_spelled {α : Type} {spell : List Char → Option α} {expected : String} {lead : Lead}
    {a : α} (read : lead.spelled spell expected = .ok a) : ∃ cs, spell cs = some a := by
  cases lead with
  | text s =>
    rw [Lead.spelled] at read
    split at read
    · rename_i found
      cases read
      exact ⟨_, found⟩
    · cases read
  | _ => cases read

lemma keeps_valid : record.Keeps Draft.Valid := by
  intro f field lead draft draft' valid filled
  simp only [record, List.mem_cons, List.not_mem_nil, or_false] at field
  rcases field with rfl | rfl
  · rw [tokenField_fills] at filled
    cases token : lead.spelled Token.ofText? "a formatted UUID string" with
    | error p =>
      rw [token] at filled
      cases filled
    | ok x =>
      rw [token] at filled
      cases filled
      exact valid
  · rw [openedAtField_fills] at filled
    cases opened : lead.spelled Instant.ofText? "an RFC 3339 formatted date and time string" with
    | error p =>
      rw [opened] at filled
      cases filled
    | ok x =>
      rw [opened] at filled
      cases filled
      intro t same
      cases same
      obtain ⟨cs, read⟩ := exists_of_spelled opened
      exact Instant.valid_of_ofText? read

lemma valid_of_complete {d : Draft} {s : Session} (valid : d.Valid)
    (completed : d.complete = .ok s) :
    s.openedAt.Valid := by
  obtain ⟨token, openedAt⟩ := d
  cases token with
  | none => cases completed
  | some token =>
    cases openedAt with
    | none => cases completed
    | some t =>
      cases completed
      exact valid t rfl

lemma valid_of_decode {text : String} {s : Session} (decoded : codec.decode text = .ok s) :
    s.openedAt.Valid :=
  Record.holds_of_readAll (P := Draft.Valid) (Q := fun s => s.openedAt.Valid)
    (fun _ blank => by cases blank) keeps_valid (fun _ _ => valid_of_complete) decoded

lemma takesScalars : record.TakesScalars := by
  intro f field draft lead bracket
  simp only [record, List.mem_cons, List.not_mem_nil, or_false] at field
  rcases field with rfl | rfl <;> rcases bracket with rfl | rfl <;> exact ⟨_, rfl⟩

lemma decode_eq_ofValue {text : String} {v : Value} (spelled : v.SpelledBy text) :
    codec.decode text = record.ofValue v :=
  Record.readAll_of_spelledBy takesScalars spelled

lemma spelledBy_toJson (s : Session) : s.toJson.SpelledBy (codec.encode s) := by
  refine Value.spelledBy_toText (Value.spells_write_object ?_)
  simp only [List.forall_mem_cons]
  exact ⟨Value.spells_write_text _, Value.spells_write_text _, fun _ none => by cases none⟩

lemma ofValue_toJson {s : Session} (valid : s.openedAt.Valid) :
    record.ofValue s.toJson = .ok s := by
  have token : (Value.text (String.ofList s.token.text)).as
      (Lead.spelled Token.ofText? "a formatted UUID string") = .ok s.token := by
    rw [Value.as, Value.lead?]
    simp only [Lead.spelled, String.toList_ofList, Token.ofText?_text]
  have opened : (Value.text (String.ofList s.openedAt.text)).as
      (Lead.spelled Instant.ofText? "an RFC 3339 formatted date and time string") =
        .ok s.openedAt := by
    rw [Value.as, Value.lead?]
    simp only [Lead.spelled, String.toList_ofList, Instant.ofText?_text valid]
  rw [toJson, Record.ofValue, Record.ofMembers,
    Record.absorb_bind_eq_ok_iff (f := tokenField) rfl tokenField_fills]
  refine ⟨rfl, s.token, token, ?_⟩
  rw [Record.ofMembers, Record.absorb_bind_eq_ok_iff (f := openedAtField) rfl openedAtField_fills]
  exact ⟨rfl, s.openedAt, opened, rfl⟩

lemma decode_encode {s : Session} (valid : s.openedAt.Valid) :
    codec.decode (codec.encode s) = .ok s := by
  rw [decode_eq_ofValue (spelledBy_toJson s), ofValue_toJson valid]

lemma isPlain_padded (width n : Nat) : IsPlain (Decimal.padded width n) := by
  intro c member
  have digit := Decimal.isDigit_of_mem_padded member
  simp only [Char.isDigit, Bool.and_eq_true, decide_eq_true_eq] at digit
  have low : '0'.toNat ≤ c.toNat := digit.1
  refine ⟨Nat.le_trans (by decide) low, ?_, ?_⟩
  · rintro rfl
    exact absurd low (by decide)
  · rintro rfl
    exact absurd digit.2 (by decide)

lemma isPlain_lowerHexDigits : IsPlain Text.lowerHexDigits := by
  simp [IsPlain, Text.lowerHexDigits]

lemma isPlain_hexPadded (width n : Nat) : IsPlain (Text.hexPadded width n) :=
  isPlain_of_subset isPlain_lowerHexDigits fun _ => Text.mem_lowerHexDigits_of_mem_hexPadded

lemma isPlain_of_hyphenated {ds cs : List Char} (groups : Token.Hyphenated ds cs)
    (plain : IsPlain ds) : IsPlain cs := by
  cases groups with
  | groups =>
    simp only [isPlain_append, isPlain_cons] at plain ⊢
    obtain ⟨a, b, c, d, e⟩ := plain
    exact ⟨a, by decide, b, by decide, c, by decide, d, by decide, e⟩

lemma isPlain_instant (t : Instant) : IsPlain t.text := by
  have year : IsPlain (Instant.yearText t.date.year) := by
    rw [Instant.yearText]
    split_ifs
    · exact isPlain_padded _ _
    · exact isPlain_cons.2 ⟨by decide, isPlain_padded _ _⟩
    · exact isPlain_cons.2 ⟨by decide, isPlain_padded _ _⟩
  have fraction : IsPlain (Instant.fractionText (t.nanos % 1000000000)) := by
    rw [Instant.fractionText]
    split_ifs
    · exact isPlain_nil
    all_goals exact isPlain_cons.2 ⟨by decide, isPlain_padded _ _⟩
  simp only [Instant.text, Instant.dateText, Instant.clockText, isPlain_append, isPlain_cons,
    isPlain_nil, isPlain_padded, year, fraction, true_and, and_true]
  decide

lemma encode_eq (s : Session) :
    codec.encode s = "\x7b\"token\":\"" ++ String.ofList s.token.text ++ "\",\"opened_at\":\"" ++
      String.ofList s.openedAt.text ++ "\"\x7d" := by
  have token :=
    escape_of_plain (isPlain_of_hyphenated s.token.hyphenated_text (isPlain_hexPadded 32 _))
  have opened := escape_of_plain (isPlain_instant s.openedAt)
  have keys : escape "token".toList = "token".toList ∧
      escape "opened_at".toList = "opened_at".toList := by
    decide
  rw [← String.toList_inj]
  simp only [codec, toJson, Value.toText, Value.write, Value.writeMembers, quote, keys,
    String.toList_ofList, token, opened, String.toList_append]
  simp

end Countinghouse.Session

namespace Countinghouse

open Json Time

/-- Every session that is read is written in one way and read back from it. Its token is written in
lower case and in groups, its time in universal time with the shortest exact fraction. -/
theorem session_texts_canonical {text : String} {s : Session}
    (decoded : Session.codec.decode text = .ok s) :
    Session.codec.decode (Session.codec.encode s) = .ok s ∧
    (Session.codec.decode (Session.codec.encode s)).map Session.codec.encode =
      .ok (Session.codec.encode s) ∧
    (∀ text' s', Session.codec.decode text' = .ok s' →
      (s = s' ↔ Session.codec.encode s = Session.codec.encode s')) ∧
    ∃ digits token time,
      Session.codec.encode s = "\x7b\"token\":\"" ++ String.ofList token ++
        "\",\"opened_at\":\"" ++ String.ofList time ++ "\"\x7d" ∧
      Token.Hyphenated digits token ∧ (∀ c ∈ digits, c ∈ Text.lowerHexDigits) ∧
      Text.hexNumber? digits = some s.token.bits.toNat ∧ s.openedAt.IsUniversal time := by
  have valid := Session.valid_of_decode decoded
  have back := Session.decode_encode valid
  refine ⟨back, by rw [back, Except.map], ?_, Text.hexPadded 32 s.token.bits.toNat, s.token.text,
    s.openedAt.text, Session.encode_eq s, s.token.hyphenated_text,
    fun _ => Text.mem_lowerHexDigits_of_mem_hexPadded, s.token.hexNumber?_digits,
    Instant.isUniversal_text valid⟩
  intro text' s' decoded'
  refine ⟨congrArg _, fun same => ?_⟩
  have back' := Session.decode_encode (Session.valid_of_decode decoded')
  rw [← same, back] at back'
  exact Except.ok.inj back'

/-- A leap second before midnight, half an hour behind universal time, at the end of year 9999. -/
theorem leap_second_session_rewritten :
    Session.codec.decode
      "[\"\x7b00000000-0000-0000-0000-0000000000FF\x7d\",\"9999-12-31t23:59:60.12-00:30\"]" =
        .ok ⟨⟨255⟩, ⟨253402302599, 1120000000⟩⟩ ∧
    Session.codec.encode ⟨⟨255⟩, ⟨253402302599, 1120000000⟩⟩ =
      "\x7b\"token\":\"00000000-0000-0000-0000-0000000000ff\"," ++
        "\"opened_at\":\"+10000-01-01T00:29:60.120Z\"\x7d" ∧
    Session.codec.decode (Session.codec.encode ⟨⟨255⟩, ⟨253402302599, 1120000000⟩⟩) =
      .ok ⟨⟨255⟩, ⟨253402302599, 1120000000⟩⟩ := by
  have decoded : Session.codec.decode
      "[\"\x7b00000000-0000-0000-0000-0000000000FF\x7d\",\"9999-12-31t23:59:60.12-00:30\"]" =
        .ok ⟨⟨255⟩, ⟨253402302599, 1120000000⟩⟩ := by
    rfl
  exact ⟨decoded, by decide, (session_texts_canonical decoded).1⟩

end Countinghouse
