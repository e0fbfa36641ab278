import Countinghouse.Person
import Countinghouse.Proofs.Text.LowerCase
import Countinghouse.Proofs.Text.Trim

/-!
The words that name the languages of the house. A text names a language if it is one of five words,
white space around it and the case of its ASCII letters apart; customers are answered in the
languages that are named so, tellers answer in English to all else.
-/
namespace Countinghouse

namespace Language

def answersTo : Language → List String
  | english => ["english", "en"]
  | german => ["german", "de", "deutsch"]

def IsNamedBy (l : Language) (text : String) : Prop :=
  ∃ core, Text.IsCore core text.toList ∧
    ∃ word ∈ l.answersTo, core.map Char.toLower = word.toList

lemma ofWord?_eq_some_iff {cs : List Char} {l : Language} :
    ofWord? cs = some l ↔ ∃ word ∈ l.answersTo, cs = word.toList := by
  constructor
  · intro found
    obtain ⟨earlier, later, split, -⟩ := List.lookup_eq_some_iff.1 found
    have listed : (cs, l) ∈ words := by simp [split]
    have answers : ∀ w ∈ words, ∃ word ∈ w.2.answersTo, w.1 = word.toList := by decide
    exact answers _ listed
  · rintro ⟨word, answers, rfl⟩
    have listed : ∀ word ∈ l.answersTo, ofWord? word.toList = some l := by
      cases l with
      | english => decide
      | german => decide
    exact listed word answers

lemma plain_of_mem_answersTo {l : Language} {word : String} (answers : word ∈ l.answersTo) :
    ∀ d ∈ word.toList, Text.IsAscii d ∧ d ≠ 'k' := by
  have letters : ∀ w ∈ l.answersTo, w.toList.all fun d => Text.IsAscii d ∧ d ≠ 'k' := by
    cases l with
    | english => decide
    | german => decide
  simpa only [List.all_eq_true, decide_eq_true_eq] using letters word answers

lemma named?_eq_some_iff {text : String} {l : Language} :
    named? text = some l ↔ l.IsNamedBy text := by
  rw [named?, ofWord?_eq_some_iff]
  constructor
  · rintro ⟨word, answers, same⟩
    exact ⟨_, Text.isCore_trim _, word, answers,
      (Text.lower_eq_iff (plain_of_mem_answersTo answers)).1 same⟩
  · rintro ⟨core, isCore, word, answers, same⟩
    rw [Text.isCore_iff.1 isCore] at same
    exact ⟨word, answers, (Text.lower_eq_iff (plain_of_mem_answersTo answers)).2 same⟩

lemma ofText_eq_ok_iff {text : String} {l : Language} :
    ofText text = .ok l ↔ l.IsNamedBy text := by
  rw [← named?_eq_some_iff, ofText]
  cases named? text <;> simp

/-- What names no language is refused, and the refusal carries it as it was given. -/
lemma ofText_eq_error_iff {text : String} {e : Failure} :
    ofText text = .error e ↔ (∀ l : Language, ¬ l.IsNamedBy text) ∧
      e = .unsupportedLanguage text := by
  simp only [← named?_eq_some_iff, ofText]
  cases named? text with
  | none => simp [eq_comm]
  | some l => simp

/-- White space around a text is no part of what it names. -/
lemma ofText_surrounded {before after : List Char} (blank : ∀ c ∈ before ++ after, Text.isBlank c)
    {text : String} {l : Language} :
    ofText (String.ofList (before ++ text.toList ++ after)) = .ok l ↔ ofText text = .ok l := by
  have trimmed : Text.trim (before ++ text.toList ++ after) = Text.trim text.toList := by
    rw [Text.trim_append_right fun c member => blank c (List.mem_append_right _ member),
      Text.trim_append_left fun c member => blank c (List.mem_append_left _ member)]
  simp only [ofText_eq_ok_iff, IsNamedBy, Text.isCore_iff, String.toList_ofList, trimmed]

lemma isAscii_of_isNamedBy {l : Language} {text : String} (named : l.IsNamedBy text)
    {core : List Char} (isCore : Text.IsCore core text.toList) : ∀ c ∈ core, Text.IsAscii c := by
  obtain ⟨other, found, word, answers, same⟩ := named
  rw [Text.isCore_iff.1 found, ← Text.isCore_iff.1 isCore] at same
  have plain := plain_of_mem_answersTo answers
  exact Text.isAscii_of_lower plain ((Text.lower_eq_iff plain).2 same)

end Language

namespace Person

lemma goodbye_customer_eq_error_iff {c : Customer} {text : String} {e : Failure} :
    (customer c).goodbye text = .error e ↔ Language.ofText text = .error e := by
  rw [goodbye, Customer.goodbye]
  cases Language.ofText text <;> simp [Except.map]

/-- The two texts of a customer differ, so each tells the language that was named. -/
lemma goodbye_customer_eq_farewell_iff {c : Customer} {text : String} {l : Language} :
    (customer c).goodbye text = .ok (Customer.farewell l) ↔ Language.ofText text = .ok l := by
  rw [goodbye, Customer.goodbye]
  cases Language.ofText text with
  | error e => simp [Except.map]
  | ok k => cases k <;> cases l <;> simp [Except.map, Customer.farewell]

lemma goodbye_teller_eq_german_iff {t : Teller} {text : String} :
    (teller t).goodbye text = .ok (Teller.farewell .german) ↔
      Language.ofText text = .ok .german := by
  rw [goodbye, Teller.goodbye]
  cases Language.ofText text with
  | error e => simp [Teller.farewell]
  | ok l => cases l <;> simp [Teller.farewell]

/-- Where no language is named, a teller answers as if English had been. -/
lemma goodbye_teller_eq_english_iff {t : Teller} {text : String} :
    (teller t).goodbye text = .ok (Teller.farewell .english) ↔
      Language.ofText text ≠ .ok .german := by
  rw [goodbye, Teller.goodbye]
  cases Language.ofText text with
  | error e => simp
  | ok l => cases l <;> simp [Teller.farewell]

end Person

/-- A text is taken for a language if and only if its core is a word of that language, whatever the
case of its ASCII letters, and refused as it was given otherwise; a core with other characters than
those of ASCII is refused, and white space around it makes no difference. Customers refuse just what
names no language, tellers refuse nothing; both answer in the language that is named, each kind of
person in words of its own, and tellers in English if none is. -/
theorem languages_named_by_five_words (text : String) :
    (∃! core, Text.IsCore core text.toList) ∧
    (∀ l, Language.ofText text = .ok l ↔ l.IsNamedBy text) ∧
    (∀ e, Language.ofText text = .error e ↔
      (∀ l : Language, ¬ l.IsNamedBy text) ∧ e = .unsupportedLanguage text) ∧
    (∀ core, Text.IsCore core text.toList → (∃ c ∈ core, ¬ Text.IsAscii c) →
      Language.ofText text = .error (.unsupportedLanguage text)) ∧
    (∀ before after, (∀ c ∈ before ++ after, Text.isBlank c) → ∀ l,
      Language.ofText (String.ofList (before ++ text.toList ++ after)) = .ok l ↔
        Language.ofText text = .ok l) ∧
    ∀ (c : Customer) (t : Teller),
      (∀ e, (Person.customer c).goodbye text = .error e ↔ Language.ofText text = .error e) ∧
      ((Person.customer c).goodbye text = .ok "Goodbye!" ↔
        Language.ofText text = .ok .english) ∧
      ((Person.customer c).goodbye text = .ok "Auf Wiedersehen!" ↔
        Language.ofText text = .ok .german) ∧
      (∀ e, (Person.teller t).goodbye text ≠ .error e) ∧
      ((Person.teller t).goodbye text = .ok "Thank you for banking with us. Goodbye!" ↔
        Language.ofText text ≠ .ok .german) ∧
      ((Person.teller t).goodbye text = .ok "Vielen Dank für Ihren Besuch. Auf Wiedersehen!" ↔
        Language.ofText text = .ok .german) ∧
      ∀ e, (Person.customer c).goodbye text = .error e →
        (Person.teller t).goodbye text = .ok "Thank you for banking with us. Goodbye!" ∧
        (Person.teller t).goodbye text = (Person.teller t).goodbye "english" := by
  refine ⟨⟨_, Text.isCore_trim _, fun core isCore => Text.isCore_iff.1 isCore⟩,
    fun l => Language.ofText_eq_ok_iff, fun e => Language.ofText_eq_error_iff, ?_,
    fun before after blank l => Language.ofText_surrounded blank, fun c t => ?_⟩
  · rintro core isCore ⟨c, member, beyond⟩
    refine Language.ofText_eq_error_iff.2 ⟨fun l named => ?_, rfl⟩
    exact beyond (Language.isAscii_of_isNamedBy named isCore c member)
  · refine ⟨fun e => Person.goodbye_customer_eq_error_iff,
      Person.goodbye_customer_eq_farewell_iff (l := .english),
      Person.goodbye_customer_eq_farewell_iff (l := .german), fun e refused => ?_,
      Person.goodbye_teller_eq_english_iff, Person.goodbye_teller_eq_german_iff,
      fun e refused => ?_⟩
    · cases refused
    · have other : Language.ofText text ≠ .ok .german := by
        rw [Person.goodbye_customer_eq_error_iff.1 refused]
        simp
      have english : (Person.teller t).goodbye text = .ok (Teller.farewell .english) :=
        Person.goodbye_teller_eq_english_iff.2 other
      exact ⟨english, english.trans rfl⟩

/-- A German word among wide spaces is understood; a capital I with a dot spells no English. -/
theorem dotted_capital_names_no_language :
    let text := "ENGL\u0130SH"
    let spaced := String.ofList (['\u3000'] ++ "DeutscH".toList ++ ['\u00a0', '\n'])
    Text.IsCore text.toList text.toList ∧ ¬ Text.IsAscii '\u0130' ∧
    Language.ofText text = .error (.unsupportedLanguage text) ∧
    (Person.teller ⟨1, "Tom", none⟩).goodbye text =
      .ok "Thank you for banking with us. Goodbye!" ∧
    Language.german.IsNamedBy spaced ∧ Language.ofText spaced = .ok .german ∧
    (Person.customer ⟨2, "Ann"⟩).goodbye spaced = .ok "Auf Wiedersehen!" ∧
    (Person.teller ⟨1, "Tom", none⟩).goodbye spaced =
      .ok "Vielen Dank für Ihren Besuch. Auf Wiedersehen!" := by
  intro text spaced
  have isCore : Text.IsCore text.toList text.toList := Text.isCore_iff.2 (by decide)
  have beyond : ¬ Text.IsAscii '\u0130' := by decide
  obtain ⟨-, -, -, foreign, -, strangers⟩ := languages_named_by_five_words text
  obtain ⟨-, -, -, -, surrounded, -⟩ := languages_named_by_five_words "DeutscH"
  have refused := foreign _ isCore ⟨_, by decide, beyond⟩
  obtain ⟨customers, -, -, -, -, -, tellers⟩ := strangers ⟨2, "Ann"⟩ ⟨1, "Tom", none⟩
  have understood : Language.ofText spaced = .ok .german :=
    (surrounded _ _ (List.all_eq_true.1 (by decide)) .german).2 rfl
  obtain ⟨-, named, -, -, -, people⟩ := languages_named_by_five_words spaced
  obtain ⟨-, -, customer, -, -, teller, -⟩ := people ⟨2, "Ann"⟩ ⟨1, "Tom", none⟩
  exact ⟨isCore, beyond, refused, (tellers _ ((customers _).2 refused)).1,
    (named .german).1 understood, understood, customer.2 understood, teller.2 understood⟩

end Countinghouse
