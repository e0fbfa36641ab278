import Countinghouse.People
import Mathlib.Tactic.Common

/-! What a request may do to the people, and whom a request may name. -/
namespace Countinghouse

/-- An answer that was mapped was an answer before. -/
lemma exists_of_map_eq_ok {ε α β : Type} {x : Except ε α} {f : α → β} {b : β}
    (h : x.map f = .ok b) : ∃ a, x = .ok a ∧ f a = b := by
  cases x with
  | error e => cases h
  | ok a =>
    cases h
    exact ⟨a, rfl, rfl⟩

namespace People

/-- The handle is that of a person of this kind. -/
def Knows (p : People) (kind : PersonKind) (h : Handle) : Prop :=
  ∃ person, p.person? h = some person ∧ person.kind = kind

lemma person?_of_resolve {p : People} {slot : String} {h : Handle} {person : Person}
    (found : p.resolve slot = .ok (h, person)) : p.person? h = some person := by
  simp only [resolve] at found
  split at found
  · split at found
    · rename_i here
      cases found
      exact here
    · cases found
  · cases found

lemma knows_of_resolveKind {p : People} {kind : PersonKind} {slot : String} {h : Handle}
    (found : p.resolveKind kind slot = .ok h) : p.Knows kind h := by
  simp only [resolveKind] at found
  split at found
  · rename_i k person here
    split at found
    · rename_i kinds
      cases found
      exact ⟨person, person?_of_resolve here, kinds⟩
    · cases found
  · cases found

lemma knows_of_resolveOptional {p : People} {kind : PersonKind} {slot : Option String}
    {h : Option Handle} (found : p.resolveOptional kind slot = .ok h) :
    ∀ k ∈ h, p.Knows kind k := by
  intro k member
  cases slot with
  | none =>
    cases found
    cases member
  | some slot =>
    obtain ⟨j, resolved, rfl⟩ := exists_of_map_eq_ok found
    cases member
    exact knows_of_resolveKind resolved

inductive Leads : People → People → Prop
  | introduced (p : People) (slot : String) (person : Person) : Leads p (p.introduce slot person).2
  | shared (p : People) (slot : String) (h : Handle) (held : (p.person? h).isSome) :
      Leads p ((p.retainAll [h]).put slot h)
  | cleared (p : People) (slot : String) : Leads p (p.clear slot)
  | updated (p : People) (h : Handle) (f : Person → Person)
      (sameKind : ∀ person, (f person).kind = person.kind) : Leads p (p.update h f)

end People
end Countinghouse
