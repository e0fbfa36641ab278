import Countinghouse.Proofs.World.Counts

/-!
Who holds whom. In every run the count of a handle is the number of names, accounts and banks that
hold it, and a house that is closed down leaves only the names.
-/
namespace Countinghouse

namespace World

def refs (w : World) (h : Handle) : Nat := w.people.register.refs h

/-- The names, accounts and banks that hold a handle. -/
def holders (w : World) (h : Handle) : Nat :=
  w.people.slots.values.count h + w.accounts.values.countP (h ∈ ·.handles) +
    w.banks.values.countP (h ∈ ·.handles)

namespace Audited

variable {w : World}

lemma refs_eq_holders (audited : w.Audited) (h : Handle) : w.refs h = w.holders h := by
  have accounts : ∀ a ∈ w.accounts.values, a.handles.Nodup := by
    intro a _
    rw [Account.handles]
    cases a.customer <;> simp
  have banks : ∀ b ∈ w.banks.values, b.handles.Nodup := by
    intro b member
    obtain ⟨slot, here⟩ := Slots.mem_values_iff.1 member
    exact (audited.known here).nodup
  have byAccounts := Slots.count_total accounts h
  have byBanks := Slots.count_total banks h
  have counted := audited.counts h
  rw [held, People.named_eq, Multiset.count_add, Multiset.count_add, Multiset.coe_count] at counted
  rw [refs, holders, counted]
  have accountsHold : (w.accounts.total Account.held).count h = _ := byAccounts
  have banksHold : (w.banks.total Bank.held).count h = _ := byBanks
  omega

end Audited

lemma counts_discardBanks {bs : List Bank} {w : World} {rest : Multiset Handle}
    (before : w.people.register.Counts (rest + (bs.map Bank.held).sum)) :
    (bs.foldl discardBank w).people.register.Counts rest := by
  induction bs generalizing w with
  | nil => simpa using before
  | cons b bs ih =>
    rw [List.map_cons, List.sum_cons, add_comm b.held, ← add_assoc] at before
    exact ih (w := w.discardBank b) before.releaseAll

lemma counts_discardEach {as : List Account} {w : World} {rest : Multiset Handle}
    (before : w.people.register.Counts (rest + (as.map Account.held).sum)) :
    (w.discardEach as).1.people.register.Counts rest := by
  induction as generalizing w with
  | nil => simpa [discardEach] using before
  | cons a as ih =>
    rw [List.map_cons, List.sum_cons, add_comm a.held, ← add_assoc] at before
    exact ih (counts_discardAccount before)

lemma counts_closeDown {w : World} (audited : w.Audited) :
    w.closeDown.1.people.register.Counts w.people.named := by
  have before := audited.counts
  rw [held, add_comm (w.accounts.total _), add_assoc, add_comm (w.banks.total _)] at before
  have banksGone := counts_discardBanks before
  rw [add_comm] at banksGone
  apply counts_discardEach (w := w.discardBanks)
  rw [accounts_discardBanks]
  exact banksGone

end World

namespace Visit

/-- A first closing parts a savings account from its customer. -/
lemma count_handles_close (v : Visit) (h : Handle) :
    v.account.handles.count h = v.close.1.account.handles.count h +
      if v.account.kind = .savings ∧ v.account.isClosed = false ∧ v.account.customer = some h
        then 1 else 0 := by
  cases session : v.account.session with
  | none => simp [close, session, Account.isClosed]
  | some s =>
    cases kind : v.account.kind with
    | checking =>
      simp [close, session, kind, Account.released, Account.keptCustomer, Account.handles]
    | savings =>
      cases customer : v.account.customer with
      | none =>
        simp [close, session, kind, customer, Account.released, Account.keptCustomer,
          Account.handles, Account.isClosed]
      | some k =>
        simp [close, session, kind, customer, Account.released, Account.keptCustomer,
          Account.handles, Account.isClosed, List.count_singleton]

lemma refs_close {v : Visit} {rest : Multiset Handle}
    (counts : v.people.register.Counts (rest + ↑v.account.handles)) (h : Handle) :
    v.close.1.people.register.refs h +
      (if v.account.kind = .savings ∧ v.account.isClosed = false ∧ v.account.customer = some h
        then 1 else 0) = v.people.register.refs h := by
  have change := counts.refs_add_count (counts_close counts) h
  rw [Multiset.coe_count, Multiset.coe_count, v.count_handles_close h] at change
  omega

/-- Whoever is already the customer of an account may be set again. -/
lemma refs_setCustomer_same {v : Visit} {rest : Multiset Handle}
    (counts : v.people.register.Counts (rest + ↑v.account.handles)) {name : Option String}
    (same : v.people.resolveOptional .customer name = .ok v.account.customer) (h : Handle) :
    ((BlockStep.act (.setCustomer name)).run v).visit.people.register.refs h =
      v.people.register.refs h := by
  have led := Leads.assigned v v.account.customer (People.knows_of_resolveOptional same)
  have change := counts.refs_add_count (led.counts counts) h
  rw [BlockStep.run, Act.perform, same]
  exact Nat.add_right_cancel change

end Visit

namespace World

lemma counts_visit {w : World} (audited : w.Audited) {slot : String} {u : Visit}
    (here : w.visit? slot = some u) (block : List BlockStep) :
    (runBlock block u).visit.people.register.Counts
      (w.heldBesides slot + ↑(runBlock block u).visit.account.handles) := by
  have led := leads_runBlock block u
  have moment := (audited.afterVisit here led).counts
  have slots : (runBlock block u).visit.people.slots = w.people.slots := by
    obtain ⟨a, there, rfl⟩ := exists_account_of_visit? here
    exact led.slots
  rwa [held_afterVisit slots] at moment

end World

lemma Step.run_eq {s : Step} {w w' : World} (done : (s.perform w).map Outcome.state = .ok w') :
    (s.run w).2 = w' := by
  obtain ⟨⟨answer, log, state⟩, performed, rfl⟩ := exists_of_map_eq_ok done
  rw [run, performed]
  cases answer <;> rfl

namespace World.Audited

variable {w : World} {slot : String}

/-- A request changes the count of a handle by as much as it changes what is held. -/
lemma refs_run (audited : w.Audited) {s : Step} (lost gained : List Handle)
    (balance : (s.run w).2.held + ↑lost = w.held + ↑gained) (h : Handle) :
    (s.run w).2.refs h + lost.count h = w.refs h + gained.count h := by
  have later := (s.leads w).audited audited
  rw [refs, refs, audited.counts h, later.counts h, ← Multiset.coe_count, ← Multiset.coe_count,
    ← Multiset.count_add, balance, Multiset.count_add]

lemma refs_dropAccount (audited : w.Audited) {a : Account} (here : w.accounts.find? slot = some a)
    (h : Handle) :
    ((Step.account (.drop slot)).run w).2.refs h + a.handles.count h = w.refs h := by
  refine audited.refs_run a.handles [] ?_ h
  rw [Multiset.coe_nil, add_zero, ← held_clearAccount here]
  congr 2
  apply Step.run_eq
  rw [Step.perform, AccountStep.perform, visit_of_find? here]
  rfl

lemma refs_openAccount (audited : w.Audited) {a : Account} (here : w.accounts.find? slot = some a)
    {name : Option String} {c : Option Handle}
    (found : w.people.resolveOptional .customer name = .ok c) (kind : AccountKind) (id : Int64)
    (h : Handle) :
    ((Step.account (.opened slot kind id name)).run w).2.refs h + a.handles.count h =
      w.refs h + c.toList.count h := by
  refine audited.refs_run a.handles c.toList ?_ h
  have opened : ((Step.account (.opened slot kind id name)).run w).2 =
      ((w.openAccount kind id c).2.putAccount slot (w.openAccount kind id c).1).1 := by
    apply Step.run_eq
    rw [Step.perform, AccountStep.perform, found]
    rfl
  have balance := held_putAccount (w.openAccount kind id c).2 slot (w.openAccount kind id c).1
  have there : (w.openAccount kind id c).2.accounts.find? slot = some a := here
  rw [there] at balance
  rw [opened]
  exact balance

lemma refs_dropBank (audited : w.Audited) {b : Bank} (here : w.banks.find? slot = some b)
    (h : Handle) :
    ((Step.bank (.drop slot)).run w).2.refs h + b.handles.count h = w.refs h := by
  refine audited.refs_run b.handles [] ?_ h
  rw [Multiset.coe_nil, add_zero, ← held_clearBank here]
  congr 2
  apply Step.run_eq
  rw [Step.perform, BankStep.perform, bank_of_find? here]
  rfl

/-- A bank that comes brings what it holds, and what it takes the place of goes with all it held. -/
lemma refs_putBank (audited : w.Audited) {s : Step} {b : Bank}
    (received : (s.run w).2 =
      World.putBank { w with people := w.people.retainAll b.handles } slot b) (h : Handle) :
    (s.run w).2.refs h + (w.banks.find? slot).elim 0 (·.handles.count h) =
      w.refs h + b.handles.count h := by
  have balance : (s.run w).2.held + (w.banks.find? slot).elim 0 Bank.held = w.held + b.held := by
    rw [received]
    exact held_putBank { w with people := w.people.retainAll b.handles } slot b
  cases there : w.banks.find? slot with
  | none =>
    rw [there] at balance
    exact audited.refs_run [] b.handles balance h
  | some old =>
    rw [there] at balance
    exact audited.refs_run old.handles b.handles balance h

lemma refs_foundBank (audited : w.Audited) (slot : String) {customer teller : Option String}
    {c t : Option Handle}
    (foundCustomer : w.people.resolveOptional .customer customer = .ok c)
    (foundTeller : w.people.resolveOptional .teller teller = .ok t) (id : Int64) (name : String)
    (h : Handle) :
    ((Step.bank (.founded slot id name customer teller)).run w).2.refs h +
        (w.banks.find? slot).elim 0 (·.handles.count h) =
      w.refs h + (c.toList ++ t.toList).count h := by
  refine audited.refs_putBank (b := ⟨id, name, c, t, []⟩) (Step.run_eq ?_) h
  rw [Step.perform, BankStep.perform, foundCustomer, foundTeller]
  rfl

/-- A clone holds the customer and the teller of its bank once more. -/
lemma refs_cloneBank (audited : w.Audited) {source : String} {b : Bank}
    (here : w.banks.find? source = some b) (h : Handle) :
    ((Step.bank (.clone source slot)).run w).2.refs h +
        (w.banks.find? slot).elim 0 (·.handles.count h) =
      w.refs h + if b.customer = some h ∨ b.teller = some h then 1 else 0 := by
  have held : b.handles.count h = if b.customer = some h ∨ b.teller = some h then 1 else 0 := by
    rw [(audited.known here).nodup.count]
    simp only [Bank.handles, List.mem_append, Option.mem_toList]
  rw [← held]
  refine audited.refs_putBank ?_ h
  rw [run_clone here, b.clone_eq]

/-- A bank may be given the customer or the teller that it has. -/
lemma refs_setBank_same (audited : w.Audited) {s : Step} {b : Bank}
    (here : w.banks.find? slot = some b) (k : Option Handle)
    (set : (s.run w).2 = World.setBank
      { w with people := (w.people.retainAll k.toList).releaseAll k.toList } slot b) (h : Handle) :
    (s.run w).2.refs h = w.refs h := by
  refine audited.refs_run [] [] ?_ h
  rw [set]
  exact held_setBank_add here (rfl : b.held + 0 = b.held + 0)

lemma refs_setCustomer_same (audited : w.Audited) {b : Bank}
    (here : w.banks.find? slot = some b) {customer : Option String}
    (same : w.people.resolveOptional .customer customer = .ok b.customer) (h : Handle) :
    ((Step.bank (.setCustomer slot customer)).run w).2.refs h = w.refs h := by
  refine audited.refs_setBank_same here b.customer (Step.run_eq ?_) h
  rw [Step.perform, BankStep.perform, same]
  simp only [bank_of_find? here]
  rfl

lemma refs_setTeller_same (audited : w.Audited) {b : Bank}
    (here : w.banks.find? slot = some b) {teller : Option String}
    (same : w.people.resolveOptional .teller teller = .ok b.teller) (h : Handle) :
    ((Step.bank (.setTeller slot teller)).run w).2.refs h = w.refs h := by
  refine audited.refs_setBank_same here b.teller (Step.run_eq ?_) h
  rw [Step.perform, BankStep.perform, same]
  simp only [bank_of_find? here]
  rfl

end World.Audited

/-- In every house that a run leads to, and at any moment inside a block, a handle is counted as
often as there are names, accounts and banks that hold it. So only the first closing of a savings
account parts it from its customer, who goes gives back what it held then, a clone holds what its
bank holds, to set anew what is set changes no count, and a house closed down leaves the names. -/
theorem handles_counted_as_held (steps : List Step) (h : Handle) :
    let w := (World.empty.run steps).2
    w.refs h = w.holders h ∧
    (∀ slot u block, w.visit? slot = some u →
      let v := (runBlock block u).visit
      (w.afterVisit slot v).refs h = (w.afterVisit slot v).holders h ∧
      v.close.1.people.register.refs h +
        (if v.account.kind = .savings ∧ v.account.isClosed = false ∧ v.account.customer = some h
          then 1 else 0) = v.people.register.refs h ∧
      ∀ name, v.people.resolveOptional .customer name = .ok v.account.customer →
        ((BlockStep.act (.setCustomer name)).run v).visit.people.register.refs h =
          v.people.register.refs h) ∧
    (∀ slot a, w.accounts.find? slot = some a →
      ((Step.account (.drop slot)).run w).2.refs h + a.handles.count h = w.refs h ∧
      ∀ kind id name c, w.people.resolveOptional .customer name = .ok c →
        ((Step.account (.opened slot kind id name)).run w).2.refs h + a.handles.count h =
          w.refs h + c.toList.count h) ∧
    (∀ slot b, w.banks.find? slot = some b →
      ((Step.bank (.drop slot)).run w).2.refs h + b.handles.count h = w.refs h ∧
      (∀ id name customer teller c t, w.people.resolveOptional .customer customer = .ok c →
        w.people.resolveOptional .teller teller = .ok t →
        ((Step.bank (.founded slot id name customer teller)).run w).2.refs h + b.handles.count h =
          w.refs h + (c.toList ++ t.toList).count h) ∧
      (∀ target, ((Step.bank (.clone slot target)).run w).2.refs h +
        (w.banks.find? target).elim 0 (·.handles.count h) =
          w.refs h + if b.customer = some h ∨ b.teller = some h then 1 else 0) ∧
      (∀ customer, w.people.resolveOptional .customer customer = .ok b.customer →
        ((Step.bank (.setCustomer slot customer)).run w).2.refs h = w.refs h) ∧
      ∀ teller, w.people.resolveOptional .teller teller = .ok b.teller →
        ((Step.bank (.setTeller slot teller)).run w).2.refs h = w.refs h) ∧
    w.closeDown.1.refs h = w.people.slots.values.count h := by
  intro w
  have audited : w.Audited := World.audited_empty.run steps
  refine ⟨audited.refs_eq_holders h, ?_, ?_, ?_, ?_⟩
  · intro slot u block here v
    have counts := World.counts_visit audited here block
    have moment := audited.afterVisit here (leads_runBlock block u)
    exact ⟨moment.refs_eq_holders h, Visit.refs_close counts h,
      fun name same => Visit.refs_setCustomer_same counts same h⟩
  · intro slot a here
    exact ⟨audited.refs_dropAccount here h,
      fun kind id name c found => audited.refs_openAccount here found kind id h⟩
  · intro slot b here
    refine ⟨audited.refs_dropBank here h, ?_, fun target => audited.refs_cloneBank here h,
      fun customer same => audited.refs_setCustomer_same here same h,
      fun teller same => audited.refs_setTeller_same here same h⟩
    intro id name customer teller c t foundCustomer foundTeller
    have change := audited.refs_foundBank slot foundCustomer foundTeller id name h
    rwa [here] at change
  · rw [World.refs, World.counts_closeDown audited h, People.named_eq, Multiset.coe_count]

/-- A savings account is closed and given its customer again. To close it once more changes nothing;
to drop it gives back what it holds. A bank with the same customer is cloned. -/
theorem reattached_customer_counted :
    let steps : List Step :=
      [.person (.introduce "ann" (.customer ⟨1, "Ann"⟩)),
        .account (.opened "a" .savings 7 (some "ann")), .account (.act "a" .close),
        .account (.act "a" (.setCustomer (some "ann"))),
        .bank (.founded "b" 8 "Bank" (some "ann") none)]
    let w := (World.empty.run steps).2
    let ann : Handle := ⟨0⟩
    w.refs ann = 3 ∧ w.holders ann = 3 ∧
      (∃ u, w.visit? "a" = some u ∧ u.account.isClosed ∧
        u.close.1.people.register.refs ann = u.people.register.refs ann) ∧
      ((Step.account (.drop "a")).run w).2.refs ann + 1 = w.refs ann ∧
      ((Step.bank (.clone "b" "c")).run w).2.refs ann = w.refs ann + 1 ∧
      w.closeDown.1.refs ann = 1 := by
  intro steps w ann
  obtain ⟨counted, visits, accounts, banks, left⟩ := handles_counted_as_held steps ann
  have three : w.refs ann = 3 := by decide
  obtain ⟨-, closed, -⟩ := visits "a" _ [] rfl
  obtain ⟨dropped, -⟩ := accounts "a" _ rfl
  obtain ⟨-, -, cloned, -⟩ := banks "b" _ rfl
  exact ⟨three, counted.symm.trans three, ⟨_, rfl, rfl, closed⟩, dropped, cloned "c", left⟩

end Countinghouse
