import Countinghouse.Json.Record
import Mathlib.Tactic.Common

/-!
What drafts keep while a record is read. Whatever holds of the blank draft and is kept by every
field holds of the draft that is completed in the end, whatever the text is.
-/
namespace Countinghouse.Json.Record

variable {δ α : Type} {r : Record δ α} {P : δ → Prop} {Q : α → Prop} {draft : δ} {a : α}
  {cs rest : List Char}

/-- Every field keeps `P`. -/
def Keeps (r : Record δ α) (P : δ → Prop) : Prop :=
  ∀ f ∈ r.fields, ∀ lead draft draft', P draft → f.fill lead draft = .ok draft' → P draft'

lemma holds_of_completed (completes : ∀ draft a, P draft → r.complete draft = .ok a → Q a)
    (good : P draft) (read : (r.complete draft).map (·, rest) = .ok (a, cs)) : Q a := by
  cases completed : r.complete draft with
  | error p =>
    rw [completed] at read
    cases read
  | ok b =>
    rw [completed] at read
    cases read
    exact completes draft a good completed

lemma holds_of_members (keeps : r.Keeps P)
    (completes : ∀ draft a, P draft → r.complete draft = .ok a → Q a) {isFirst : Bool}
    (good : P draft) (read : r.members isFirst draft cs = .ok (a, rest)) : Q a := by
  fun_induction r.members isFirst draft cs with
  | case1 => cases read
  | case2 => exact holds_of_completed completes good read
  | case3 => cases read
  | case4 isFirst draft cs name behind turn unknown rest' passed ih => exact ih good read
  | case5 => cases read
  | case6 => cases read
  | case7 => cases read
  | case8 isFirst draft cs name behind turn f known empty lead rest' found draft' filled ih =>
    exact ih (keeps f (List.mem_of_find?_eq_some known) lead _ _ good filled) read

lemma holds_of_elements (keeps : r.Keeps P)
    (completes : ∀ draft a, P draft → r.complete draft = .ok a → Q a) {count : Nat}
    {fs : List (Field δ)} (declared : ∀ f ∈ fs, f ∈ r.fields) (good : P draft)
    (read : r.elements count draft fs cs = .ok (a, rest)) : Q a := by
  induction fs generalizing count draft cs with
  | nil =>
    rw [elements] at read
    split at read
    · exact holds_of_completed completes good read
    · cases read
  | cons f fs ih =>
    rw [elements] at read
    split at read
    · cases read
    · split at read
      · cases read
      · rename_i lead behind found
        cases filled : f.fill lead draft with
        | error p =>
          simp only [filled] at read
          cases read
        | ok draft' =>
          simp only [filled] at read
          have kept := keeps f (declared f List.mem_cons_self) lead draft draft' good filled
          exact ih (fun g member => declared g (List.mem_cons_of_mem f member)) kept read

/-- Whatever is read to its end was completed from a draft that every field kept. -/
lemma holds_of_readAll {text : String} (blank : P r.blank) (keeps : r.Keeps P)
    (completes : ∀ draft a, P draft → r.complete draft = .ok a → Q a)
    (decoded : readAll r.read text = .ok a) : Q a := by
  obtain ⟨behind, read⟩ : ∃ behind, r.read text.toList = .ok (a, behind) := by
    rw [readAll] at decoded
    split at decoded
    · cases decoded
    · rename_i b behind read
      split at decoded
      · cases decoded
        exact ⟨behind, read⟩
      · cases decoded
  rw [Record.read] at read
  split at read
  · cases read
  · exact holds_of_members keeps completes blank read
  · exact holds_of_elements keeps completes (fun _ member => member) blank read
  · cases read

end Countinghouse.Json.Record
