import Countinghouse.Proofs.People.Leads
import Countinghouse.Proofs.Register.Counts
import Countinghouse.Proofs.Slots.Totals

/-!
People under changes: who is known stays known, and the register goes on counting the names and all
other references to them.
-/
namespace Countinghouse.People

/-- Nobody who was known before is forgotten or becomes another kind of person. -/
def Remembers (p p' : People) : Prop := ∀ kind h, p.Knows kind h → p'.Knows kind h

lemma Remembers.refl (p : People) : p.Remembers p := fun _ _ known => known

lemma Remembers.trans {p q r : People} (first : p.Remembers q) (next : q.Remembers r) :
    p.Remembers r := fun kind h known =>
  next kind h (first kind h known)

lemma Remembers.of_person? {p p' : People} (same : ∀ h, p'.person? h = p.person? h) :
    p.Remembers p' := by
  intro kind h ⟨person, here, kinds⟩
  exact ⟨person, (same h).trans here, kinds⟩

lemma Knows.isSome {p : People} {kind : PersonKind} {h : Handle} (known : p.Knows kind h) :
    (p.register.person? h).isSome := by
  obtain ⟨person, here, -⟩ := known
  exact Option.isSome_iff_exists.2 ⟨person, here⟩

/-- A customer is no teller. -/
lemma Knows.kind_eq {p : People} {kind other : PersonKind} {h : Handle} (first : p.Knows kind h)
    (second : p.Knows other h) : kind = other := by
  obtain ⟨person, here, rfl⟩ := first
  obtain ⟨again, there, rfl⟩ := second
  rw [here] at there
  cases there
  rfl

lemma remembers_retainAll (p : People) (hs : List Handle) : p.Remembers (p.retainAll hs) :=
  .of_person? (p.register.person?_retainAll hs)

lemma remembers_releaseAll (p : People) (hs : List Handle) : p.Remembers (p.releaseAll hs) :=
  .of_person? (p.register.person?_releaseAll hs)

lemma remembers_put (p : People) (slot : String) (h : Handle) : p.Remembers (p.put slot h) :=
  p.remembers_releaseAll _

lemma remembers_clear (p : People) (slot : String) : p.Remembers (p.clear slot) :=
  p.remembers_releaseAll _

lemma remembers_update (p : People) (h : Handle) {f : Person → Person}
    (sameKind : ∀ person, (f person).kind = person.kind) : p.Remembers (p.update h f) := by
  intro kind k ⟨person, here, kinds⟩
  by_cases same : h = k
  · refine ⟨f person, ?_, (sameKind person).trans kinds⟩
    simp only [person?, update, Register.person?_update, if_pos same]
    rw [show p.register.person? k = some person from here, Option.map_some]
  · refine ⟨person, ?_, kinds⟩
    simp only [person?, update, Register.person?_update, if_neg same]
    exact here

lemma remembers_introduce (p : People) (slot : String) (person : Person) :
    p.Remembers (p.introduce slot person).2 := by
  refine Remembers.trans ?_ (remembers_put _ slot _)
  intro kind h ⟨old, here, kinds⟩
  refine ⟨old, ?_, kinds⟩
  exact (p.register.person?_enter person (Option.isSome_iff_exists.2 ⟨old, here⟩)).trans here

lemma Leads.remembers {p p' : People} (led : p.Leads p') : p.Remembers p' := by
  cases led with
  | introduced slot person => exact p.remembers_introduce slot person
  | shared slot h held => exact (p.remembers_retainAll [h]).trans (remembers_put _ slot h)
  | cleared slot => exact p.remembers_clear slot
  | updated h f sameKind => exact p.remembers_update h sameKind

/-- The handles in the slots. -/
def named (p : People) : Multiset Handle := p.slots.total ({·})

lemma named_eq (p : People) : p.named = ↑p.slots.values := by
  rw [named, Slots.total, ← Multiset.sum_coe, ← Multiset.map_coe, Multiset.sum_map_singleton]

lemma elim_singleton (h : Option Handle) :
    h.elim 0 ({·}) = (↑h.toList : Multiset Handle) := by
  cases h <;> rfl

lemma counts_put {p : People} {rest : Multiset Handle} {slot : String} {h : Handle}
    (counts : p.register.Counts (rest + p.named + {h})) :
    (p.put slot h).register.Counts (rest + (p.put slot h).named) := by
  have filled := p.slots.total_put ({·} : Handle → Multiset Handle) slot h
  rw [elim_singleton, add_comm ({h} : Multiset Handle)] at filled
  rw [named, add_assoc, ← filled, ← add_assoc] at counts
  exact counts.releaseAll

lemma counts_clear {p : People} {rest : Multiset Handle} (slot : String)
    (counts : p.register.Counts (rest + p.named)) :
    (p.clear slot).register.Counts (rest + (p.clear slot).named) := by
  have cleared := p.slots.total_clear ({·} : Handle → Multiset Handle) slot
  rw [elim_singleton] at cleared
  rw [named, ← cleared, ← add_assoc] at counts
  exact counts.releaseAll

lemma Leads.counts {p p' : People} {rest : Multiset Handle} (led : p.Leads p')
    (before : p.register.Counts (rest + p.named)) : p'.register.Counts (rest + p'.named) := by
  cases led with
  | introduced slot person =>
    apply counts_put
    rw [add_comm]
    exact before.enter person
  | shared slot h held =>
    apply counts_put
    exact before.retainAll fun k only => by rwa [List.mem_singleton.1 only]
  | cleared slot => exact counts_clear slot before
  | updated h f sameKind => exact before.update h f

end Countinghouse.People
