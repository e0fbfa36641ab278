import Countinghouse.Proofs.Tree.Balance
import Countinghouse.Proofs.Tree.Requests
import Countinghouse.Proofs.Tree.Tracing
import Countinghouse.Proofs.World.Failures

/-!
What the requests of a run report about banks, and which banks they copy and drop. Only what opens a
branch, takes one out, or does either to a vault is reported.
-/
namespace Countinghouse

/-- What a change to a branch reports when it can be made. -/
def BranchChange.reports (c : BranchChange) (r : Branch) : List Event :=
  match c with
  | installVault id _ => [.vaultInstalled r.address id]
  | removeVault id => (r.vault? id).elim [] fun _ => [.vaultRemoved r.address id]
  | _ => []

namespace Step

/-- What a request reports about banks. -/
def reports (s : Step) (w : World) : List Event :=
  match s with
  | bank (.openBranch slot address _ vaults) => (w.banks.find? slot).elim [] fun b =>
    .branchOpened b.name address :: vaults.map fun plan => .vaultInstalled address plan.id
  | bank (.removeBranch slot index) => (w.banks.find? slot).elim [] fun b =>
    b.branches[index.toNat]?.elim [] fun r => [.branchRemoved b.name r.address r.vaultCount]
  | branch (.change s c) => (w.banks.find? s.bank).elim [] fun b =>
    (b.branch? s.place).elim [] c.reports
  | _ => []

/-- The bank that a request makes a copy of. -/
def copied (s : Step) (w : World) : Option Bank :=
  match s with
  | bank (.clone source _) => w.banks.find? source
  | _ => none

/-- The bank that a request drops, or puts another in the place of. -/
def dropped (s : Step) (w : World) : Option Bank :=
  match s with
  | bank (.founded slot _ _ customer teller) =>
    match w.people.resolveOptional .customer customer, w.people.resolveOptional .teller teller with
    | .ok _, .ok _ => w.banks.find? slot
    | _, _ => none
  | bank (.clone source slot) => (w.banks.find? source).bind fun _ => w.banks.find? slot
  | bank (.drop slot) => w.banks.find? slot
  | _ => none

end Step

namespace World

/-- All banks that the requests of a run copy, each as it is then. -/
def copies (w : World) : List Step → List Bank
  | [] => []
  | s :: ss => (s.copied w).toList ++ (s.run w).2.copies ss

/-- All banks that the requests of a run drop, each as it is then. -/
def drops (w : World) : List Step → List Bank
  | [] => []
  | s :: ss => (s.dropped w).toList ++ (s.run w).2.drops ss

end World

section

variable (w : World) (slot : String) (deeds : Bank → List BankDeed)

lemma World.log_inBank : (HouseDeed.performAll w.banks (w.inBank slot deeds)).2 =
    (w.banks.find? slot).elim [] fun b => (BankDeed.performAll b (deeds b)).2 := by
  rw [inBank]
  cases here : w.banks.find? slot with
  | none => rfl
  | some b => rw [HouseDeed.performAll_inBank here, Option.elim_some]

variable {deeds} in
lemma World.log_inBank_of_silent (silent : ∀ b, (BankDeed.performAll b (deeds b)).2 = []) :
    (HouseDeed.performAll w.banks (w.inBank slot deeds)).2 = [] := by
  rw [log_inBank]
  cases w.banks.find? slot with
  | none => rfl
  | some b => exact silent b

lemma HouseDeed.exchange_map_inBank (banks : Slots Bank) (ds : List BankDeed) :
    copies banks (ds.map (.inBank slot)) = [] ∧ drops banks (ds.map (.inBank slot)) = [] := by
  induction ds generalizing banks with
  | nil => exact ⟨rfl, rfl⟩
  | cons d ds ih => exact ih _

/-- What is done in one bank copies and drops none. -/
lemma World.exchange_inBank : HouseDeed.copies w.banks (w.inBank slot deeds) = [] ∧
    HouseDeed.drops w.banks (w.inBank slot deeds) = [] := by
  rw [inBank]
  split
  · exact HouseDeed.exchange_map_inBank slot _ _
  · exact ⟨rfl, rfl⟩

end

lemma Branch.log_furnish (r : Branch) (plans : List VaultPlan) :
    (r.furnish plans).2 = plans.map fun plan => .vaultInstalled r.address plan.id := by
  induction plans generalizing r with
  | nil => rfl
  | cons plan plans ih =>
    rw [furnish, List.map_cons]
    exact congrArg (_ :: ·) (ih _)

/-- A change that can be made logs what it has to report; only a removal can fail. -/
lemma BranchChange.reports_eq (c : BranchChange) (r : Branch) :
    c.reports r = match c.apply r with
      | .ok (_, log) => log
      | .error _ => [] := by
  cases c with
  | removeVault id =>
    simp only [reports, apply, Branch.removeVault_eq, Branch.vault?]
    cases r.vaults.find? (·.id == id) <;> rfl
  | _ => rfl

/-- What deeds to the branch at a place report, if there is one. -/
lemma Bank.log_atPlace {b : Bank} {p : Place} {deeds : Nat → Branch → List BankDeed}
    {reports : Branch → List Event}
    (same : ∀ i r, b.branches[i]? = some r → (BankDeed.performAll b (deeds i r)).2 = reports r) :
    (BankDeed.performAll b (b.atPlace p deeds)).2 = (b.branch? p).elim [] reports := by
  have found := b.branch?_eq_bind p
  rw [atPlace]
  cases at_i : b.branchIndex? p with
  | none =>
    rw [at_i, Option.bind_none] at found
    rw [found]
    rfl
  | some i =>
    rw [at_i, Option.bind_some] at found
    rw [found]
    cases here : b.branches[i]? with
    | none => rfl
    | some r => exact same i r here

lemma Bank.log_vaultDeeds (b : Bank) (p : Place) (id : String) (f : Vault → Vault) :
    (BankDeed.performAll b (b.atPlace p (Branch.vaultDeeds id f))).2 = [] := by
  have silent : (BankDeed.performAll b (b.atPlace p (Branch.vaultDeeds id f))).2 =
      (b.branch? p).elim [] fun _ => [] := by
    refine log_atPlace fun i r _ => ?_
    rw [Branch.vaultDeeds]
    cases r.vaultIndex? id <;> rfl
  rw [silent]
  cases b.branch? p <;> rfl

lemma BankStep.log_houseDeeds (s : BankStep) (w : World) :
    (HouseDeed.performAll w.banks (s.houseDeeds w)).2 = Step.reports (.bank s) w := by
  cases s with
  | founded slot id name customer teller =>
    simp only [houseDeeds]
    split <;> rfl
  | clone source slot =>
    simp only [houseDeeds, HouseDeed.performAll, HouseDeed.perform]
    split <;> rfl
  | drop slot =>
    simp only [houseDeeds, HouseDeed.performAll, HouseDeed.perform]
    split <;> rfl
  | get slot => rfl
  | counts slot => rfl
  | openBranch slot address phoneNumber vaults =>
    simp only [houseDeeds, World.log_inBank, Bank.performAll_openBranch, Branch.log_furnish]
    rfl
  | removeBranch slot index =>
    simp only [houseDeeds, World.log_inBank, BankDeed.performAll_single, Step.reports]
    congr 1
    funext b
    simp only [BankDeed.perform, Bank.removeBranch]
    cases b.branches[index.toNat]? <;> rfl
  | setCustomer slot customer =>
    simp only [houseDeeds]
    split
    · exact w.log_inBank_of_silent slot fun b => rfl
    · rfl
  | setTeller slot teller =>
    simp only [houseDeeds]
    split
    · exact w.log_inBank_of_silent slot fun b => rfl
    · rfl
  | _ => exact w.log_inBank_of_silent _ fun b => rfl

namespace Step

lemma log_houseDeeds (s : Step) (w : World) :
    (HouseDeed.performAll w.banks (s.houseDeeds w)).2 = s.reports w := by
  cases s with
  | bank s => exact s.log_houseDeeds w
  | branch s =>
    cases s with
    | change s c =>
      simp only [houseDeeds, World.log_inBank, reports]
      congr 1
      funext b
      refine Bank.log_atPlace fun i r here => ?_
      rw [c.reports_eq]
      cases applied : c.apply r with
      | error e => rw [BranchChange.performAll_deeds_error here applied]
      | ok p => rw [BranchChange.performAll_deeds here applied]
    | _ => rfl
  | vault s =>
    cases s with
    | setId s id newId => exact w.log_inBank_of_silent _ fun b => b.log_vaultDeeds ..
    | setOccupied s id occupied => exact w.log_inBank_of_silent _ fun b => b.log_vaultDeeds ..
    | _ => rfl
  | _ => rfl

/-- What a request logs about banks is what it has to report. Setters are overhauls and amendments,
which are silent. -/
lemma ofBanks_run (s : Step) (w : World) : ofBanks (s.run w).1.log = s.reports w := by
  rw [← s.log_houseDeeds w, s.performAll_houseDeeds w]

lemma exchange_houseDeeds (s : Step) (w : World) :
    HouseDeed.copies w.banks (s.houseDeeds w) = (s.copied w).toList ∧
      HouseDeed.drops w.banks (s.houseDeeds w) = (s.dropped w).toList := by
  cases s with
  | bank s =>
    cases s with
    | founded slot id name customer teller =>
      simp only [houseDeeds, BankStep.houseDeeds, copied, dropped]
      cases w.people.resolveOptional .customer customer with
      | error r => exact ⟨rfl, rfl⟩
      | ok c =>
        cases w.people.resolveOptional .teller teller with
        | error r => exact ⟨rfl, rfl⟩
        | ok t => exact ⟨rfl, List.append_nil _⟩
    | clone source slot => exact ⟨List.append_nil _, List.append_nil _⟩
    | drop slot => exact ⟨rfl, List.append_nil _⟩
    | get slot => exact ⟨rfl, rfl⟩
    | counts slot => exact ⟨rfl, rfl⟩
    | setCustomer slot customer =>
      simp only [houseDeeds, BankStep.houseDeeds]
      split
      · exact w.exchange_inBank slot _
      · exact ⟨rfl, rfl⟩
    | setTeller slot teller =>
      simp only [houseDeeds, BankStep.houseDeeds]
      split
      · exact w.exchange_inBank slot _
      · exact ⟨rfl, rfl⟩
    | _ => exact w.exchange_inBank _ _
  | branch s =>
    cases s with
    | change s c => exact w.exchange_inBank s.bank _
    | _ => exact ⟨rfl, rfl⟩
  | vault s =>
    cases s with
    | setId s id newId => exact w.exchange_inBank s.bank _
    | setOccupied s id occupied => exact w.exchange_inBank s.bank _
    | _ => exact ⟨rfl, rfl⟩
  | _ => exact ⟨rfl, rfl⟩

/-- What a request reports, copies and drops accounts for what it does to the tree. -/
lemma balanced_run (s : Step) (w : World) :
    Balanced w.banks (ofBanks (s.run w).1.log) (s.copied w).toList (s.dropped w).toList
      (s.run w).2.banks := by
  have balanced := HouseDeed.balanced_performAll w.banks (s.houseDeeds w)
  obtain ⟨copies, drops⟩ := s.exchange_houseDeeds w
  rwa [s.performAll_houseDeeds w, copies, drops] at balanced

end Step

lemma World.balanced_run (w : World) (steps : List Step) :
    Balanced w.banks (ofBanks ((w.run steps).1.flatMap Entry.log)) (w.copies steps) (w.drops steps)
      (w.run steps).2.banks := by
  induction steps generalizing w with
  | nil => exact .refl w.banks
  | cons s ss ih =>
    simp only [run, List.flatMap_cons, ofBanks_append]
    exact (s.balanced_run w).trans (ih (s.run w).2)

lemma mem_ofBanks {e : Event} {log : List Event} (level : e.level = .debug) :
    e ∈ ofBanks log ↔ e ∈ log := by
  simp [ofBanks, level]

lemma mem_elim_nil {α β : Type} {o : Option α} {f : α → List β} {x : β} :
    x ∈ o.elim [] f ↔ ∃ a, o = some a ∧ x ∈ f a := by
  cases o <;> simp

/-- A branch is reported gone only by a request to take it out. -/
lemma Step.branchRemoved_of_mem_reports {s : Step} {w : World} {bank address : String}
    {vaults : Nat} (member : .branchRemoved bank address vaults ∈ s.reports w) :
    ∃ slot index b r, s = .bank (.removeBranch slot index) ∧ w.banks.find? slot = some b ∧
      b.branches[index.toNat]? = some r ∧ bank = b.name ∧ address = r.address ∧
      vaults = r.vaultCount := by
  cases s with
  | bank s =>
    cases s with
    | openBranch slot place phoneNumber plans =>
      obtain ⟨b, -, opened⟩ := mem_elim_nil.1 member
      simp at opened
    | removeBranch slot index =>
      obtain ⟨b, here, removed⟩ := mem_elim_nil.1 member
      obtain ⟨r, there, told⟩ := mem_elim_nil.1 removed
      cases List.mem_singleton.1 told
      exact ⟨slot, index, b, r, rfl, here, there, rfl, rfl, rfl⟩
    | _ => cases member
  | branch s =>
    cases s with
    | change s c =>
      obtain ⟨b, -, changed⟩ := mem_elim_nil.1 member
      obtain ⟨r, -, told⟩ := mem_elim_nil.1 changed
      cases c with
      | installVault id occupied =>
        cases List.mem_singleton.1 told
      | removeVault id =>
        obtain ⟨v, -, removed⟩ := mem_elim_nil.1 told
        cases List.mem_singleton.1 removed
      | _ => cases told
    | _ => cases member
  | _ => cases member

/-- A branch that is reported gone stood where the request said, with as many vaults as reported,
and stands there no more. -/
lemma Step.branchRemoved_of_mem {s : Step} {w : World} {bank address : String} {vaults : Nat}
    (member : .branchRemoved bank address vaults ∈ (s.run w).1.log) :
    ∃ slot index b r, s = .bank (.removeBranch slot index) ∧ w.banks.find? slot = some b ∧
      b.branches[index.toNat]? = some r ∧ bank = b.name ∧ address = r.address ∧
      vaults = r.vaultCount ∧ (s.run w).2.banks =
        w.banks.put slot { b with branches := b.branches.eraseIdx index.toNat } := by
  rw [← mem_ofBanks rfl, s.ofBanks_run w] at member
  obtain ⟨slot, index, b, r, rfl, here, there, rfl, rfl, rfl⟩ :=
    branchRemoved_of_mem_reports member
  refine ⟨slot, index, b, r, rfl, here, there, rfl, rfl, rfl, ?_⟩
  have done := congrArg Prod.fst (performAll_houseDeeds (.bank (.removeBranch slot index)) w)
  simp only [houseDeeds, BankStep.houseDeeds, World.inBank, here, HouseDeed.performAll_inBank here,
    BankDeed.performAll_single, BankDeed.perform, Bank.removeBranch, there] at done
  exact done.symm

/-- A request fails, or it is turned away. -/
def Step.Fails (s : Step) (w : World) : Prop := ∀ o, s.perform w = .ok o → ∃ e, o.answer = .error e

/-- Requests that fail report nothing about banks and leave them as they were. -/
lemma Step.Fails.silent {s : Step} {w : World} (fails : s.Fails w) :
    ofBanks (s.run w).1.log = [] ∧ (s.run w).2.banks = w.banks := by
  have settled := s.settles w
  rw [run]
  cases done : s.perform w with
  | error r => exact ⟨rfl, rfl⟩
  | ok o =>
    rw [done] at settled
    cases settled with
    | denied e why => exact ⟨rfl, rfl⟩
    | served o a answers plain =>
      obtain ⟨e, failed⟩ := fails o done
      rw [answers] at failed
      cases failed

end Countinghouse
