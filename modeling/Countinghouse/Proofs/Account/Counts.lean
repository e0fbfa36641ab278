import Countinghouse.Proofs.Account.Leads
import Countinghouse.Proofs.People.Counts

/-!
The references that an account holds at the counter. Whatever is done to it, the register counts
them and leaves all other references alone.
-/
namespace Countinghouse.Visit

lemma remembers_close (v : Visit) : v.people.Remembers v.close.1.people := by
  cases session : v.account.session with
  | none =>
    simp only [close, session]
    exact .refl v.people
  | some s =>
    simp only [close, session]
    exact v.people.remembers_releaseAll _

lemma Leads.remembers {v v' : Visit} {log : List Event} (led : Leads v log v') :
    v.people.Remembers v'.people := by
  induction led with
  | stayed v => exact .refl v.people
  | closed v => exact v.remembers_close
  | renumbered v id => exact .refl v.people
  | assigned v h known =>
    exact (v.people.remembers_retainAll _).trans (People.remembers_releaseAll _ _)
  | renamed v name =>
    rw [renameCustomer]
    split
    · exact v.people.remembers_update _ (Person.kind_setName name)
    · exact .refl v.people
  | andThen first next ihFirst ihNext => exact ihFirst.trans ihNext

lemma handles_released (a : Account) (now : Nat) :
    a.partedCustomer.toList ++ (a.released now).handles = a.handles := by
  simp only [Account.partedCustomer, Account.handles, Account.released, Account.keptCustomer]
  cases a.kind with
  | checking => rfl
  | savings => simp

lemma counts_close {v : Visit} {rest : Multiset Handle}
    (before : v.people.register.Counts (rest + ↑v.account.handles)) :
    v.close.1.people.register.Counts (rest + ↑v.close.1.account.handles) := by
  cases session : v.account.session with
  | none =>
    simp only [close, session]
    exact before
  | some s =>
    simp only [close, session]
    apply Register.Counts.releaseAll
    rwa [add_assoc, add_comm (_ : Multiset Handle) ↑v.account.partedCustomer.toList,
      Multiset.coe_add, handles_released]

lemma Leads.counts {v v' : Visit} {log : List Event} {rest : Multiset Handle}
    (led : Leads v log v') (before : v.people.register.Counts (rest + ↑v.account.handles)) :
    v'.people.register.Counts (rest + ↑v'.account.handles) := by
  induction led with
  | stayed v => exact before
  | closed v => exact counts_close before
  | renumbered v id => exact before
  | assigned v h known =>
    have held : ∀ k ∈ h.toList, (v.people.register.person? k).isSome := fun k member =>
      (known k (Option.mem_toList.1 member)).isSome
    have both := before.retainAll held
    rw [add_right_comm] at both
    exact both.releaseAll
  | renamed v name =>
    rw [renameCustomer]
    split
    · exact before.update _ _
    · exact before
  | andThen first next ihFirst ihNext => exact ihNext (ihFirst before)

end Countinghouse.Visit
