import Countinghouse.Proofs.Account.Counts
import Countinghouse.Proofs.World.Openings

/-!
The references held in a house. The register counts each of them once, in every run and at any
moment inside a block; so whoever goes gives back just what it held.
-/
namespace Countinghouse

def Account.held (a : Account) : Multiset Handle := ↑a.handles

def Bank.held (b : Bank) : Multiset Handle := ↑b.handles

/-- The people a bank refers to are of the right kinds. -/
structure Bank.KnownTo (b : Bank) (p : People) : Prop where
  customer : ∀ k ∈ b.customer, p.Knows .customer k
  teller : ∀ k ∈ b.teller, p.Knows .teller k

namespace Bank.KnownTo

variable {b : Bank} {p : People}

lemma remembered {p' : People} (known : b.KnownTo p) (kept : p.Remembers p') : b.KnownTo p' where
  customer k member := kept _ k (known.customer k member)
  teller k member := kept _ k (known.teller k member)

lemma isSome (known : b.KnownTo p) : ∀ k ∈ b.handles, (p.register.person? k).isSome := by
  intro k member
  rcases List.mem_append.1 member with customer | teller
  · exact (known.customer k (Option.mem_toList.1 customer)).isSome
  · exact (known.teller k (Option.mem_toList.1 teller)).isSome

/-- A customer is no teller, so no bank holds a handle twice. -/
lemma nodup (known : b.KnownTo p) : b.handles.Nodup := by
  have single : ∀ h : Option Handle, h.toList.Nodup := by
    intro h
    cases h <;> simp
  refine List.nodup_append.2 ⟨single b.customer, single b.teller, ?_⟩
  rintro k customer _ teller rfl
  cases (known.customer k (Option.mem_toList.1 customer)).kind_eq
    (known.teller k (Option.mem_toList.1 teller))

end Bank.KnownTo

namespace World

/-- All references held in a house: by accounts, by banks and by the names of people. -/
def held (w : World) : Multiset Handle :=
  w.accounts.total Account.held + w.banks.total Bank.held + w.people.named

/-- What the register of a house relies on. -/
structure Audited (w : World) : Prop where
  counts : w.people.register.Counts w.held
  known : ∀ {slot b}, w.banks.find? slot = some b → b.KnownTo w.people

/-! Nothing but the accounts changes when an account goes or comes, nothing but the banks when a
bank does. -/

lemma slots_discardAccount (w : World) (a : Account) :
    (w.discardAccount a).1.people.slots = w.people.slots := by
  simp only [discardAccount, Visit.close]
  split <;> rfl

lemma slots_putAccount (w : World) (slot : String) (a : Account) :
    (w.putAccount slot a).1.people.slots = w.people.slots := by
  simp only [putAccount]
  split
  · rfl
  · exact w.slots_discardAccount _

lemma banks_putAccount (w : World) (slot : String) (a : Account) :
    (w.putAccount slot a).1.banks = w.banks := by
  simp only [putAccount]
  split <;> rfl

lemma slots_putBank (w : World) (slot : String) (b : Bank) :
    (w.putBank slot b).people.slots = w.people.slots := by
  simp only [putBank]
  split <;> rfl

lemma banks_putBank (w : World) (slot : String) (b : Bank) :
    (w.putBank slot b).banks = w.banks.put slot b := by
  simp only [putBank]
  split <;> rfl

/-! What is held before and after, as somebody comes or goes. -/

lemma held_clearAccount {w : World} {slot : String} {a : Account}
    (here : w.accounts.find? slot = some a) :
    World.held { (w.discardAccount a).1 with
      accounts := (w.discardAccount a).1.accounts.clear slot } + a.held = w.held := by
  simp only [held, People.named, slots_discardAccount, accounts_discardAccount,
    Slots.total_of_find? Account.held here]
  show _ + w.banks.total Bank.held + _ + _ = _
  ac_rfl

lemma held_putAccount (w : World) (slot : String) (a : Account) :
    (w.putAccount slot a).1.held + (w.accounts.find? slot).elim 0 Account.held =
      w.held + a.held := by
  have filled := w.accounts.total_put Account.held slot a
  simp only [held, People.named, slots_putAccount, accounts_putAccount, banks_putAccount]
  rw [add_right_comm, add_right_comm (Slots.total _ _), filled]
  ac_rfl

lemma held_clearBank {w : World} {slot : String} {b : Bank} (here : w.banks.find? slot = some b) :
    World.held { w.discardBank b with banks := w.banks.clear slot } + b.held = w.held := by
  simp only [held, Slots.total_of_find? Bank.held here]
  show w.accounts.total Account.held + _ + w.people.named + _ = _
  ac_rfl

lemma held_putBank (w : World) (slot : String) (b : Bank) :
    (w.putBank slot b).held + (w.banks.find? slot).elim 0 Bank.held = w.held + b.held := by
  have filled := w.banks.total_put Bank.held slot b
  simp only [held, People.named, slots_putBank, accounts_putBank, banks_putBank]
  rw [add_right_comm, add_assoc (w.accounts.total _), filled]
  ac_rfl

/-- A bank that changes what it holds changes what the house holds. -/
lemma held_setBank_add {w : World} {slot : String} {b b' : Bank} {lost gained : Multiset Handle}
    (here : w.banks.find? slot = some b) (change : b'.held + lost = b.held + gained) :
    (w.setBank slot b').held + lost = w.held + gained := by
  simp only [held, setBank, Slots.total_put_eq, Slots.total_of_find? Bank.held here]
  calc w.accounts.total Account.held + ((w.banks.clear slot).total Bank.held + b'.held) +
        w.people.named + lost
      = w.accounts.total Account.held + ((w.banks.clear slot).total Bank.held +
          (b'.held + lost)) + w.people.named := by ac_rfl
    _ = w.accounts.total Account.held + ((w.banks.clear slot).total Bank.held + b.held) +
          w.people.named + gained := by
        rw [change]
        ac_rfl

/-- What is held by all but the account in this slot. -/
def heldBesides (w : World) (slot : String) : Multiset Handle :=
  (w.accounts.clear slot).total Account.held + w.banks.total Bank.held + w.people.named

lemma held_of_account {w : World} {slot : String} {a : Account}
    (here : w.accounts.find? slot = some a) : w.held = w.heldBesides slot + a.held := by
  simp only [held, heldBesides, Slots.total_of_find? Account.held here]
  ac_rfl

end World

lemma Visit.Leads.slots {v v' : Visit} {log : List Event} (led : Leads v log v') :
    v'.people.slots = v.people.slots := by
  induction led with
  | closed v =>
    rw [close]
    split <;> rfl
  | renamed v name =>
    rw [renameCustomer]
    split <;> rfl
  | andThen first next ihFirst ihNext => exact ihNext.trans ihFirst
  | _ => rfl

namespace World

lemma held_afterVisit {w : World} {slot : String} {v : Visit}
    (slots : v.people.slots = w.people.slots) :
    (w.afterVisit slot v).held = w.heldBesides slot + v.account.held := by
  simp only [held, heldBesides, afterVisit, People.named, slots, Slots.total_put_eq]
  ac_rfl

variable {w w' : World} {os : List Account} {ds : List (Serial × BlockStep)} {log : List Event}

lemma counts_discardAccount {a : Account} {rest : Multiset Handle}
    (before : w.people.register.Counts (rest + a.held)) :
    (w.discardAccount a).1.people.register.Counts rest := by
  have closed := Visit.counts_close (v := ⟨w.people, a, w.clock⟩) before
  exact closed.releaseAll

lemma counts_displacedAccount {slot : String} {a : Account} {rest : Multiset Handle}
    (before : w.people.register.Counts
      (rest + (w.accounts.find? slot).elim 0 Account.held)) :
    (w.putAccount slot a).1.people.register.Counts rest := by
  simp only [putAccount]
  split
  · rename_i here
    rwa [here, Option.elim_none, add_zero] at before
  · rename_i old here
    rw [here, Option.elim_some] at before
    exact counts_discardAccount before

lemma counts_putAccount {slot : String} {a : Account}
    (before : w.people.register.Counts (w.held + a.held)) :
    (w.putAccount slot a).1.people.register.Counts (w.putAccount slot a).1.held := by
  rw [← held_putAccount] at before
  exact counts_displacedAccount before

lemma counts_displacedBank {slot : String} {b : Bank} {rest : Multiset Handle}
    (before : w.people.register.Counts (rest + (w.banks.find? slot).elim 0 Bank.held)) :
    (w.putBank slot b).people.register.Counts rest := by
  simp only [putBank]
  split
  · rename_i here
    rwa [here, Option.elim_none, add_zero] at before
  · rename_i old here
    rw [here, Option.elim_some] at before
    exact before.releaseAll

lemma counts_putBank {slot : String} {b : Bank}
    (before : w.people.register.Counts (w.held + b.held)) :
    (w.putBank slot b).people.register.Counts (w.putBank slot b).held := by
  rw [← held_putBank] at before
  exact counts_displacedBank before

lemma counts_exchanged {slot : String} {b b' : Bank} {old new : Option Handle}
    (here : w.banks.find? slot = some b)
    (change : b'.held + ↑old.toList = b.held + ↑new.toList)
    (before : w.people.register.Counts w.held)
    (known : ∀ k ∈ new.toList, (w.people.register.person? k).isSome) :
    ((w.people.retainAll new.toList).releaseAll old.toList).register.Counts
      (w.setBank slot b').held := by
  apply Register.Counts.releaseAll
  rw [held_setBank_add here change]
  exact before.retainAll known

lemma Audited.afterVisit {slot : String} {v v' : Visit}
    (audited : w.Audited) (here : w.visit? slot = some v) (led : v.Leads log v') :
    (w.afterVisit slot v').Audited where
  counts := by
    obtain ⟨a, there, rfl⟩ := exists_account_of_visit? here
    rw [held_afterVisit led.slots]
    apply led.counts
    have before := audited.counts
    rwa [held_of_account there] at before
  known bank := by
    obtain ⟨a, there, rfl⟩ := exists_account_of_visit? here
    exact (audited.known bank).remembered led.remembers

lemma remembers_discardAccount (w : World) (a : Account) :
    w.people.Remembers (w.discardAccount a).1.people :=
  (Visit.remembers_close ⟨w.people, a, w.clock⟩).trans (People.remembers_releaseAll _ _)

lemma remembers_putAccount (w : World) (slot : String) (a : Account) :
    w.people.Remembers (w.putAccount slot a).1.people := by
  simp only [putAccount]
  split
  · exact .refl w.people
  · exact w.remembers_discardAccount _

lemma remembers_putBank (w : World) (slot : String) (b : Bank) :
    w.people.Remembers
      (World.putBank { w with people := w.people.retainAll b.handles } slot b).people := by
  apply (w.people.remembers_retainAll b.handles).trans
  simp only [putBank]
  split
  · exact .refl _
  · exact People.remembers_releaseAll _ _

lemma Leads.remembers (led : Leads w os ds log w') : w.people.Remembers w'.people := by
  cases led with
  | stayed => exact .refl w.people
  | peopled people led => exact led.remembers
  | opened slot kind id h known =>
    have retained := w.people.remembers_retainAll h.toList
    exact retained.trans (remembers_putAccount (w.openAccount kind id h).2 slot _)
  | visited slot v here block =>
    obtain ⟨a, there, rfl⟩ := exists_account_of_visit? here
    exact (block.leads_run ⟨w.people, a, w.clock⟩).remembers
  | accountDropped slot a here => exact w.remembers_discardAccount a
  | founded slot b customer teller => exact w.remembers_putBank slot b
  | cloned source slot b here => exact w.remembers_putBank slot b.clone
  | bankDropped slot b here => exact w.people.remembers_releaseAll _
  | bankChanged slot b b' log here customer teller quiet => exact .refl w.people
  | customerExchanged slot b h here known =>
    exact (w.people.remembers_retainAll _).trans (People.remembers_releaseAll _ _)
  | tellerExchanged slot b h here known =>
    exact (w.people.remembers_retainAll _).trans (People.remembers_releaseAll _ _)

/-- A bank that stands in a house after a request refers to people known before it. -/
lemma Leads.bank_known (led : Leads w os ds log w') (audited : w.Audited) {i : String} {c : Bank}
    (bank : w'.banks.find? i = some c) : c.KnownTo w.people := by
  have replaced : ∀ {slot b}, b.KnownTo w.people → (w.banks.put slot b).find? i = some c →
      c.KnownTo w.people := by
    intro slot b known found
    rw [Slots.find?_put] at found
    split at found
    · cases found
      exact known
    · exact audited.known found
  cases led with
  | opened slot kind id h known =>
    rw [banks_putAccount] at bank
    exact audited.known bank
  | founded slot b customer teller =>
    rw [banks_putBank] at bank
    exact replaced ⟨customer, teller⟩ bank
  | cloned source slot b here =>
    rw [banks_putBank, b.clone_eq] at bank
    exact replaced (audited.known here) bank
  | bankDropped slot b here =>
    rw [Slots.find?_clear] at bank
    split at bank
    · cases bank
    · exact audited.known bank
  | bankChanged slot b b' log here customer teller quiet =>
    obtain ⟨customers, tellers⟩ := audited.known here
    exact replaced ⟨customer ▸ customers, teller ▸ tellers⟩ bank
  | customerExchanged slot b h here known =>
    have new : Bank.KnownTo { b with customer := h } w.people :=
      ⟨known, (audited.known here).teller⟩
    exact replaced new bank
  | tellerExchanged slot b h here known =>
    have new : Bank.KnownTo { b with teller := h } w.people :=
      ⟨(audited.known here).customer, known⟩
    exact replaced new bank
  | _ => exact audited.known bank

lemma isSome_of_knows {p : People} {kind : PersonKind} {h : Option Handle}
    (known : ∀ k ∈ h, p.Knows kind k) : ∀ k ∈ h.toList, (p.register.person? k).isSome :=
  fun k member => (known k (Option.mem_toList.1 member)).isSome

lemma Leads.counts (led : Leads w os ds log w') (audited : w.Audited) :
    w'.people.register.Counts w'.held := by
  have before := audited.counts
  cases led with
  | stayed => exact before
  | peopled people led => exact led.counts before
  | opened slot kind id h known =>
    exact counts_putAccount (before.retainAll (isSome_of_knows known))
  | visited slot v here block => exact (audited.afterVisit here (block.leads_run v)).counts
  | accountDropped slot a here =>
    rw [← held_clearAccount here] at before
    exact counts_discardAccount before
  | founded slot b customer teller =>
    have known : b.KnownTo w.people := ⟨customer, teller⟩
    exact counts_putBank (before.retainAll known.isSome)
  | cloned source slot b here =>
    rw [b.clone_eq]
    exact counts_putBank (before.retainAll (audited.known here).isSome)
  | bankDropped slot b here =>
    rw [← held_clearBank here] at before
    exact before.releaseAll
  | bankChanged slot b b' log here customer teller quiet =>
    have same : b'.held + 0 = b.held + 0 := by
      simp only [Bank.held, Bank.handles, customer, teller]
    have balance := held_setBank_add here same
    rw [add_zero, add_zero] at balance
    rw [balance]
    exact before
  | customerExchanged slot b h here known =>
    refine counts_exchanged here ?_ before (isSome_of_knows known)
    simp only [Bank.held, Bank.handles, ← Multiset.coe_add]
    ac_rfl
  | tellerExchanged slot b h here known =>
    refine counts_exchanged here ?_ before (isSome_of_knows known)
    simp only [Bank.held, Bank.handles, ← Multiset.coe_add]
    ac_rfl

lemma Leads.audited (led : Leads w os ds log w') (audited : w.Audited) : w'.Audited where
  counts := led.counts audited
  known bank := (led.bank_known audited bank).remembered led.remembers

lemma audited_empty : empty.Audited where
  counts := Register.counts_empty
  known bank := by cases bank

lemma Audited.run (audited : w.Audited) (steps : List Step) :
    (w.run steps).2.Audited := by
  induction steps generalizing w with
  | nil => exact audited
  | cons s ss ih => exact ih ((s.leads w).audited audited)

end World
end Countinghouse
