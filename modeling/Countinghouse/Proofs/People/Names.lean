import Countinghouse.People
import Countinghouse.Proofs.Register.Counts

/-!
What a name stands for. It depends on the slots and on the kinds of people behind the handles, and
on nothing else about them.
-/
namespace Countinghouse.People

/-- The same names stand for the same handles, and behind a handle is a person of the same kind. -/
structure NamedAlike (p q : People) : Prop where
  slots : p.slots = q.slots
  kinds : ∀ h, (p.person? h).map Person.kind = (q.person? h).map Person.kind

lemma NamedAlike.refl (p : People) : p.NamedAlike p := ⟨rfl, fun _ => rfl⟩

lemma NamedAlike.symm {p q : People} (alike : p.NamedAlike q) : q.NamedAlike p :=
  ⟨alike.slots.symm, fun h => (alike.kinds h).symm⟩

lemma NamedAlike.trans {p q r : People} (first : p.NamedAlike q) (next : q.NamedAlike r) :
    p.NamedAlike r :=
  ⟨first.slots.trans next.slots, fun h => (first.kinds h).trans (next.kinds h)⟩

lemma NamedAlike.of_person? {p q : People} (slots : p.slots = q.slots)
    (same : ∀ h, q.person? h = p.person? h) : p.NamedAlike q :=
  ⟨slots, fun h => by rw [same h]⟩

lemma namedAlike_retainAll (p : People) (hs : List Handle) : p.NamedAlike (p.retainAll hs) :=
  .of_person? rfl (p.register.person?_retainAll hs)

lemma namedAlike_releaseAll (p : People) (hs : List Handle) : p.NamedAlike (p.releaseAll hs) :=
  .of_person? rfl (p.register.person?_releaseAll hs)

lemma namedAlike_update (p : People) (h : Handle) {f : Person → Person}
    (sameKind : ∀ person, (f person).kind = person.kind) : p.NamedAlike (p.update h f) := by
  refine ⟨rfl, fun k => ?_⟩
  simp only [person?, update, Register.person?_update]
  split
  · rw [Option.map_map]
    exact congrArg (fun g => Option.map g _) (funext sameKind).symm
  · rfl

lemma NamedAlike.resolveKind_eq {p q : People} (alike : p.NamedAlike q) (kind : PersonKind)
    (slot : String) : p.resolveKind kind slot = q.resolveKind kind slot := by
  simp only [resolveKind, resolve, alike.slots]
  cases q.slots.find? slot with
  | none => rfl
  | some h =>
    have kinds := alike.kinds h
    cases here : p.person? h with
    | none =>
      rw [here, Option.map_none, eq_comm, Option.map_eq_none_iff] at kinds
      simp only [here, kinds]
    | some person =>
      rw [here, Option.map_some, eq_comm, Option.map_eq_some_iff] at kinds
      obtain ⟨other, there, same⟩ := kinds
      simp only [here, there, same]

lemma NamedAlike.resolveOptional_eq {p q : People} (alike : p.NamedAlike q) (kind : PersonKind)
    (slot : Option String) : p.resolveOptional kind slot = q.resolveOptional kind slot := by
  cases slot with
  | none => rfl
  | some slot => rw [resolveOptional, resolveOptional, alike.resolveKind_eq kind slot]

end Countinghouse.People
