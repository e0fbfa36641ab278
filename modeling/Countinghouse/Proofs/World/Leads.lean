import Countinghouse.Proofs.Account.Leads
import Countinghouse.World.Run

/-!
What a request may do to the house. Every request, answered or refused, makes one of the moves
listed here; what the house keeps through all of them it keeps through every run.
-/
namespace Countinghouse

/-- The account that a request opens, as it stands when new. -/
def Step.openings (s : Step) (w : World) : List Account :=
  match s with
  | .account (.opened _ kind id customer) =>
    match w.people.resolveOptional .customer customer with
    | .ok h => [(w.openAccount kind id h).1]
    | .error _ => []
  | _ => []

/-- What a request asks of an account, which is named by its serial number. -/
def Step.deeds (s : Step) (w : World) : List (Serial × BlockStep) :=
  match s with
  | .account (.act slot a) => (w.accounts.find? slot).toList.map fun b => (b.number, .act a)
  | .account (.scopedBlock slot steps) =>
    (w.accounts.find? slot).toList.map fun b => (b.number, .scopedBlock steps false)
  | _ => []

namespace World

/-- One house becomes another; the accounts opened, what was asked of accounts and the events logged
stand between them. -/
inductive Leads : World → List Account → List (Serial × BlockStep) → List Event → World → Prop
  | stayed (w : World) : Leads w [] [] [] w
  | peopled (w : World) (people : People) (led : w.people.Leads people) :
      Leads w [] [] [] { w with people := people }
  | opened (w : World) (slot : String) (kind : AccountKind) (id : Int64) (h : Option Handle)
      (known : ∀ k ∈ h, w.people.Knows .customer k) :
      Leads w [(w.openAccount kind id h).1] []
        ((w.openAccount kind id h).2.putAccount slot (w.openAccount kind id h).1).2
        ((w.openAccount kind id h).2.putAccount slot (w.openAccount kind id h).1).1
  | visited (w : World) (slot : String) (v : Visit) (here : w.visit? slot = some v)
      (block : BlockStep) :
      Leads w [] [(v.account.number, block)] (block.run v).log
        (w.afterVisit slot (block.run v).visit)
  | accountDropped (w : World) (slot : String) (a : Account)
      (here : w.accounts.find? slot = some a) :
      Leads w [] [] (w.discardAccount a).2
        { (w.discardAccount a).1 with accounts := (w.discardAccount a).1.accounts.clear slot }
  | founded (w : World) (slot : String) (b : Bank)
      (customer : ∀ k ∈ b.customer, w.people.Knows .customer k)
      (teller : ∀ k ∈ b.teller, w.people.Knows .teller k) :
      Leads w [] [] [] (World.putBank { w with people := w.people.retainAll b.handles } slot b)
  | cloned (w : World) (source slot : String) (b : Bank) (here : w.banks.find? source = some b) :
      Leads w [] [] []
        (World.putBank { w with people := w.people.retainAll b.clone.handles } slot b.clone)
  | bankDropped (w : World) (slot : String) (b : Bank) (here : w.banks.find? slot = some b) :
      Leads w [] [] [] { w.discardBank b with banks := w.banks.clear slot }
  | bankChanged (w : World) (slot : String) (b b' : Bank) (log : List Event)
      (here : w.banks.find? slot = some b) (customer : b'.customer = b.customer)
      (teller : b'.teller = b.teller) (quiet : ∀ e ∈ log, e.level = .debug) :
      Leads w [] [] log (w.setBank slot b')
  | customerExchanged (w : World) (slot : String) (b : Bank) (h : Option Handle)
      (here : w.banks.find? slot = some b) (known : ∀ k ∈ h, w.people.Knows .customer k) :
      Leads w [] [] [] (World.setBank
        { w with people := (w.people.retainAll h.toList).releaseAll b.customer.toList }
        slot { b with customer := h })
  | tellerExchanged (w : World) (slot : String) (b : Bank) (h : Option Handle)
      (here : w.banks.find? slot = some b) (known : ∀ k ∈ h, w.people.Knows .teller k) :
      Leads w [] [] [] (World.setBank
        { w with people := (w.people.retainAll h.toList).releaseAll b.teller.toList }
        slot { b with teller := h })

lemma find?_of_bank {w : World} {slot : String} {b : Bank} (found : w.bank slot = .ok b) :
    w.banks.find? slot = some b := by
  simp only [bank] at found
  split at found
  · cases found
    assumption
  · cases found

lemma visit?_of_visit {w : World} {slot : String} {v : Visit} (found : w.visit slot = .ok v) :
    w.visit? slot = some v := by
  simp only [visit] at found
  split at found
  · cases found
    assumption
  · cases found

lemma bank_of_find? {w : World} {slot : String} {b : Bank} (here : w.banks.find? slot = some b) :
    w.bank slot = .ok b := by
  simp only [bank, here]

lemma visit_of_find? {w : World} {slot : String} {a : Account}
    (here : w.accounts.find? slot = some a) : w.visit slot = .ok ⟨w.people, a, w.clock⟩ := by
  simp only [visit, visit?, here, Option.map_some]

/-- A visit that changed nothing leaves the house as it was. -/
lemma afterVisit_self {w : World} {slot : String} {a : Account}
    (here : w.accounts.find? slot = some a) : w.afterVisit slot ⟨w.people, a, w.clock⟩ = w := by
  simp only [afterVisit, Slots.put_of_find? here]

/-- A bank that was not changed leaves the house as it was. -/
lemma setBank_self {w : World} {slot : String} {b : Bank} (found : w.bank slot = .ok b) :
    w.setBank slot b = w := by
  simp only [setBank, Slots.put_of_find? (find?_of_bank found)]

@[simp] lemma bank_setBank (w : World) (slot : String) (b : Bank) :
    (w.setBank slot b).bank slot = .ok b := by
  simp [bank, setBank, Slots.find?_put]

/-- A clone comes into its slot, and holds the people of its original once more. -/
lemma run_clone {w : World} {source slot : String} {b : Bank}
    (here : w.banks.find? source = some b) :
    let cloned := World.putBank { w with people := w.people.retainAll b.clone.handles } slot b.clone
    (Step.bank (.clone source slot)).run w = (⟨.bank (cloned.bankView b.clone), []⟩, cloned) := by
  simp only [Step.run, Step.perform, BankStep.perform, bank_of_find? here]
  rfl

/-- An account that is visited stands in its slot. -/
lemma exists_account_of_visit? {w : World} {slot : String} {v : Visit}
    (found : w.visit? slot = some v) :
    ∃ a, w.accounts.find? slot = some a ∧ v = ⟨w.people, a, w.clock⟩ := by
  obtain ⟨a, here, rfl⟩ := Option.map_eq_some_iff.1 found
  exact ⟨a, here, rfl⟩

end World

/-! A request that is not turned away leads from the house before it to that of its outcome. -/

lemma PersonStep.leads {s : PersonStep} {w : World} {o : Outcome World}
    (done : s.perform w = .ok o) : w.Leads [] [] o.log o.state := by
  cases s with
  | introduce slot p =>
    cases done
    exact .peopled w _ (.introduced _ slot p)
  | share source slot =>
    obtain ⟨⟨h, p⟩, found, rfl⟩ := exists_of_map_eq_ok done
    have held : (w.people.person? h).isSome := by
      rw [People.person?_of_resolve found]
      rfl
    exact .peopled w _ (.shared _ slot h held)
  | copy source slot =>
    obtain ⟨⟨h, p⟩, -, rfl⟩ := exists_of_map_eq_ok done
    exact .peopled w _ (.introduced _ slot p)
  | drop slot =>
    obtain ⟨-, -, rfl⟩ := exists_of_map_eq_ok done
    exact .peopled w _ (.cleared _ slot)
  | compare a b =>
    simp only [perform] at done
    split at done
    · split at done
      · cases done
        exact .stayed w
      · cases done
    · cases done
    · cases done
  | setId slot id =>
    obtain ⟨⟨h, p⟩, -, rfl⟩ := exists_of_map_eq_ok done
    exact .peopled w _ (.updated _ h _ (Person.kind_setId id))
  | setName slot name =>
    obtain ⟨⟨h, p⟩, -, rfl⟩ := exists_of_map_eq_ok done
    exact .peopled w _ (.updated _ h _ (Person.kind_setName name))
  | setDesk slot desk =>
    obtain ⟨h, -, rfl⟩ := exists_of_map_eq_ok done
    exact .peopled w _ (.updated _ h _ (Person.kind_setDesk desk))
  | get slot =>
    obtain ⟨-, -, rfl⟩ := exists_of_map_eq_ok done
    exact .stayed w
  | hello slot =>
    obtain ⟨-, -, rfl⟩ := exists_of_map_eq_ok done
    exact .stayed w
  | goodbye slot language =>
    obtain ⟨-, -, rfl⟩ := exists_of_map_eq_ok done
    exact .stayed w
  | encode slot =>
    obtain ⟨-, -, rfl⟩ := exists_of_map_eq_ok done
    exact .stayed w
  | inspect slot =>
    obtain ⟨-, -, rfl⟩ := exists_of_map_eq_ok done
    exact .stayed w

lemma AccountStep.leads {s : AccountStep} {w : World} {o : Outcome World}
    (done : s.perform w = .ok o) :
    w.Leads (Step.openings (.account s) w) (Step.deeds (.account s) w) o.log o.state := by
  cases s with
  | opened slot kind id customer =>
    obtain ⟨h, found, rfl⟩ := exists_of_map_eq_ok done
    simp only [Step.openings, found]
    exact .opened w slot kind id h (People.knows_of_resolveOptional found)
  | act slot a =>
    simp only [perform] at done
    split at done
    · cases done
    · rename_i v found
      obtain ⟨out, acted, rfl⟩ := exists_of_map_eq_ok done
      obtain ⟨b, there, rfl⟩ := World.exists_account_of_visit? (World.visit?_of_visit found)
      simp only [Step.deeds, there, Option.toList_some, List.map_singleton]
      have asked := World.Leads.visited w slot _ (World.visit?_of_visit found) (.act a)
      rw [BlockStep.run, acted, Progress.log_ofReply_ok, Progress.visit_ofReply_ok] at asked
      exact asked
  | drop slot =>
    obtain ⟨v, found, rfl⟩ := exists_of_map_eq_ok done
    obtain ⟨a, there, rfl⟩ := World.exists_account_of_visit? (World.visit?_of_visit found)
    exact .accountDropped w slot a there
  | scopedBlock slot steps =>
    obtain ⟨v, found, rfl⟩ := exists_of_map_eq_ok done
    obtain ⟨b, there, rfl⟩ := World.exists_account_of_visit? (World.visit?_of_visit found)
    simp only [Step.deeds, there, Option.toList_some, List.map_singleton]
    exact .visited w slot _ (World.visit?_of_visit found) (.scopedBlock steps false)

lemma Branch.level_of_mem_furnish {b : Branch} {plans : List VaultPlan} {e : Event}
    (member : e ∈ (b.furnish plans).2) : e.level = .debug := by
  induction plans generalizing b with
  | nil => cases member
  | cons plan plans ih =>
    rcases List.mem_cons.1 member with rfl | later
    · rfl
    · exact ih later

lemma BranchChange.level_of_mem_apply {c : BranchChange} {b b' : Branch} {log : List Event}
    (done : c.apply b = .ok (b', log)) {e : Event} (member : e ∈ log) : e.level = .debug := by
  cases c with
  | installVault id occupied =>
    have furnished : e ∈ (b.furnish [⟨id, occupied, none⟩]).2 := by
      cases done
      exact member
    exact Branch.level_of_mem_furnish furnished
  | removeVault id =>
    obtain ⟨⟨r, event⟩, removed, same⟩ := exists_of_map_eq_ok done
    cases same
    rw [List.mem_singleton.1 member]
    simp only [Branch.removeVault] at removed
    split at removed
    · cases removed
      rfl
    · cases removed
  | setAddress address =>
    cases done
    cases member
  | setPhoneNumber phoneNumber =>
    cases done
    cases member
  | fill occupied =>
    cases done
    cases member
  | labelVaults front =>
    cases done
    cases member

/-! Whatever is done to its branches, a bank keeps its customer and its teller. -/

@[simp] lemma Bank.customer_updateBranch (b : Bank) (p : Place) (f : Branch → Branch) :
    (b.updateBranch p f).customer = b.customer := by
  simp only [updateBranch]
  split <;> rfl

@[simp] lemma Bank.teller_updateBranch (b : Bank) (p : Place) (f : Branch → Branch) :
    (b.updateBranch p f).teller = b.teller := by
  simp only [updateBranch]
  split <;> rfl

lemma Bank.removeBranch_cases {b b' : Bank} {index : UInt64} {e : Event}
    (removed : b.removeBranch index = .ok (b', e)) :
    ∃ r, b.branches[index.toNat]? = some r ∧
      b' = { b with branches := b.branches.eraseIdx index.toNat } ∧
      e = .branchRemoved b.name r.address r.vaultCount := by
  simp only [removeBranch] at removed
  split at removed
  · rename_i r here
    cases removed
    exact ⟨r, here, rfl, rfl⟩
  · cases removed

lemma BankStep.leads {s : BankStep} {w : World} {o : Outcome World}
    (done : s.perform w = .ok o) : w.Leads [] [] o.log o.state := by
  cases s with
  | founded slot id name customer teller =>
    simp only [perform] at done
    split at done
    · cases done
    · cases done
    · rename_i c t foundCustomer foundTeller
      cases done
      exact .founded w slot _ (People.knows_of_resolveOptional foundCustomer)
        (People.knows_of_resolveOptional foundTeller)
  | clone source slot =>
    obtain ⟨b, found, rfl⟩ := exists_of_map_eq_ok done
    exact .cloned w source slot b (World.find?_of_bank found)
  | drop slot =>
    obtain ⟨b, found, rfl⟩ := exists_of_map_eq_ok done
    exact .bankDropped w slot b (World.find?_of_bank found)
  | get slot =>
    obtain ⟨-, -, rfl⟩ := exists_of_map_eq_ok done
    exact .stayed w
  | counts slot =>
    obtain ⟨-, -, rfl⟩ := exists_of_map_eq_ok done
    exact .stayed w
  | setId slot id =>
    obtain ⟨b, found, rfl⟩ := exists_of_map_eq_ok done
    exact .bankChanged w slot b _ [] (World.find?_of_bank found) rfl rfl (by simp)
  | setName slot name =>
    obtain ⟨b, found, rfl⟩ := exists_of_map_eq_ok done
    exact .bankChanged w slot b _ [] (World.find?_of_bank found) rfl rfl (by simp)
  | setCustomer slot customer =>
    simp only [perform] at done
    split at done
    · cases done
    · rename_i h known
      obtain ⟨b, found, rfl⟩ := exists_of_map_eq_ok done
      exact .customerExchanged w slot b h (World.find?_of_bank found)
        (People.knows_of_resolveOptional known)
  | setTeller slot teller =>
    simp only [perform] at done
    split at done
    · cases done
    · rename_i h known
      obtain ⟨b, found, rfl⟩ := exists_of_map_eq_ok done
      exact .tellerExchanged w slot b h (World.find?_of_bank found)
        (People.knows_of_resolveOptional known)
  | openBranch slot address phoneNumber vaults =>
    obtain ⟨b, found, rfl⟩ := exists_of_map_eq_ok done
    refine .bankChanged w slot b _ _ (World.find?_of_bank found) rfl rfl fun e member => ?_
    rcases List.mem_cons.1 member with rfl | furnished
    · rfl
    · exact Branch.level_of_mem_furnish furnished
  | removeBranch slot index =>
    obtain ⟨b, found, rfl⟩ := exists_of_map_eq_ok done
    cases removed : b.removeBranch index with
    | error e => exact .stayed w
    | ok r =>
      obtain ⟨b', event⟩ := r
      obtain ⟨r, -, rfl, rfl⟩ := Bank.removeBranch_cases removed
      refine .bankChanged w slot b _ _ (World.find?_of_bank found) rfl rfl fun e member => ?_
      rw [List.mem_singleton.1 member]
      rfl
  | fill slot occupied =>
    obtain ⟨b, found, rfl⟩ := exists_of_map_eq_ok done
    exact .bankChanged w slot b _ [] (World.find?_of_bank found) rfl rfl (by simp)
  | rephone slot phoneNumber =>
    obtain ⟨b, found, rfl⟩ := exists_of_map_eq_ok done
    exact .bankChanged w slot b _ [] (World.find?_of_bank found) rfl rfl (by simp)

lemma replyEqual_silent {α : Type} [DecidableEq α] {w : World}
    {x y : Except Refusal (Option α)} {o : Outcome World} (done : replyEqual w x y = .ok o) :
    o.log = [] ∧ o.state = w := by
  simp only [replyEqual] at done
  split at done
  · cases done
  · cases done
  · cases done
    exact ⟨rfl, rfl⟩
  · cases done
    exact ⟨rfl, rfl⟩

lemma replyEqual_leads {α : Type} [DecidableEq α] {w : World}
    {x y : Except Refusal (Option α)} {o : Outcome World} (done : replyEqual w x y = .ok o) :
    w.Leads [] [] o.log o.state := by
  obtain ⟨log, state⟩ := replyEqual_silent done
  rw [log, state]
  exact .stayed w

lemma BranchStep.leads {s : BranchStep} {w : World} {o : Outcome World}
    (done : s.perform w = .ok o) : w.Leads [] [] o.log o.state := by
  cases s with
  | get s =>
    obtain ⟨-, -, rfl⟩ := exists_of_map_eq_ok done
    exact .stayed w
  | encode s =>
    obtain ⟨-, -, rfl⟩ := exists_of_map_eq_ok done
    exact .stayed w
  | inspect s =>
    obtain ⟨-, -, rfl⟩ := exists_of_map_eq_ok done
    exact .stayed w
  | change s c =>
    obtain ⟨b, found, rfl⟩ := exists_of_map_eq_ok done
    split
    · exact .stayed w
    · rename_i branch here
      split
      · exact .stayed w
      · rename_i changed log applied
        exact .bankChanged w s.bank b _ log (World.find?_of_bank found)
          (Bank.customer_updateBranch ..) (Bank.teller_updateBranch ..)
          fun e member => BranchChange.level_of_mem_apply applied member
  | equal s s' => exact replyEqual_leads done

lemma VaultStep.leads_of_changed {w : World} {s : Spot} {id : String} {f : Vault → Vault}
    {o : Outcome World} (done : changed w s id f = .ok o) : w.Leads [] [] o.log o.state := by
  obtain ⟨b, found, rfl⟩ := exists_of_map_eq_ok done
  split
  · exact .stayed w
  · split
    · exact .bankChanged w s.bank b _ [] (World.find?_of_bank found)
        (Bank.customer_updateBranch ..) (Bank.teller_updateBranch ..) (by simp)
    · exact .stayed w

lemma VaultStep.leads {s : VaultStep} {w : World} {o : Outcome World}
    (done : s.perform w = .ok o) : w.Leads [] [] o.log o.state := by
  cases s with
  | get s id =>
    obtain ⟨-, -, rfl⟩ := exists_of_map_eq_ok done
    exact .stayed w
  | encode s id =>
    obtain ⟨-, -, rfl⟩ := exists_of_map_eq_ok done
    exact .stayed w
  | inspect s id =>
    obtain ⟨-, -, rfl⟩ := exists_of_map_eq_ok done
    exact .stayed w
  | setId s id newId => exact leads_of_changed done
  | setOccupied s id occupied => exact leads_of_changed done
  | equal s id s' id' => exact replyEqual_leads done

namespace Step

lemma leads_of_perform {s : Step} {w : World} {o : Outcome World} (done : s.perform w = .ok o) :
    w.Leads (s.openings w) (s.deeds w) o.log o.state := by
  cases s with
  | person s => exact s.leads done
  | account s => exact s.leads done
  | bank s => exact s.leads done
  | branch s => exact s.leads done
  | vault s => exact s.leads done
  | malformed => cases done

/-- An account that is asked for what cannot be done is left as it was. -/
lemma leads_of_act_refused {w : World} {slot : String} {a : Act} {r : Refusal}
    (refused : (AccountStep.act slot a).perform w = .error r) :
    w.Leads [] (Step.deeds (.account (.act slot a)) w) [] w := by
  cases there : w.accounts.find? slot with
  | none =>
    simp only [deeds, there, Option.toList_none, List.map_nil]
    exact .stayed w
  | some b =>
    have found : w.visit? slot = some ⟨w.people, b, w.clock⟩ := by
      simp only [World.visit?, there, Option.map_some]
    have unanswered : ∃ r, a.perform ⟨w.people, b, w.clock⟩ = .error r := by
      simp only [AccountStep.perform, World.visit, found] at refused
      cases acted : a.perform ⟨w.people, b, w.clock⟩ with
      | error r => exact ⟨r, rfl⟩
      | ok o =>
        rw [acted] at refused
        cases refused
    obtain ⟨r, unanswered⟩ := unanswered
    have asked := World.Leads.visited w slot _ found (.act a)
    rw [BlockStep.run, unanswered] at asked
    simp only [deeds, there, Option.toList_some, List.map_singleton]
    rwa [Progress.ofReply, Progress.said, World.afterVisit_self there] at asked

/-- A request that is turned away opens nothing and does nothing. -/
lemma leads_of_refused {s : Step} {w : World} {r : Refusal} (refused : s.perform w = .error r) :
    w.Leads (s.openings w) (s.deeds w) [] w := by
  cases s with
  | account s =>
    cases s with
    | opened slot kind id customer =>
      cases found : w.people.resolveOptional .customer customer with
      | error r =>
        simp only [openings, found]
        exact .stayed w
      | ok h =>
        simp only [perform, AccountStep.perform, found] at refused
        cases refused
    | act slot a => exact leads_of_act_refused refused
    | scopedBlock slot steps =>
      cases there : w.accounts.find? slot with
      | none =>
        simp only [deeds, there, Option.toList_none, List.map_nil]
        exact .stayed w
      | some b =>
        simp only [perform, AccountStep.perform, World.visit, World.visit?, there,
          Option.map_some] at refused
        cases refused
    | drop slot => exact .stayed w
  | _ => exact .stayed w

theorem leads (s : Step) (w : World) :
    w.Leads (s.openings w) (s.deeds w) (s.run w).1.log (s.run w).2 := by
  simp only [run]
  split
  · rename_i r refused
    exact leads_of_refused refused
  · rename_i a log w' done
    exact leads_of_perform done
  · rename_i e log w' done
    exact leads_of_perform done

end Step
end Countinghouse
