import Countinghouse.Proofs.Slots.Map
import Countinghouse.Proofs.Tree.Deeds
import Countinghouse.Proofs.Tree.Positions
import Countinghouse.Proofs.World.Counts

/-!
What the requests of a run do to banks, told in deeds. Whatever way a request finds a branch or a
vault by, it does nothing to banks but what its deeds do.
-/
namespace Countinghouse

namespace BankDeed

def performAll (b : Bank) : List BankDeed → Bank × List Event
  | [] => (b, [])
  | d :: ds =>
    let (next, log) := d.perform b
    let (last, rest) := performAll next ds
    (last, log ++ rest)

/-- An overhaul of one branch. -/
def inFront (i : Nat) (front : Branch → String × String) : BankDeed :=
  .overhaul (fun k r => if k = i then front r else (r.address, r.phoneNumber)) fun _ _ v => v

/-- An overhaul of the vaults in one branch. -/
def inVaults (i : Nat) (vault : Nat → Vault → Vault) : BankDeed :=
  .overhaul (fun _ r => (r.address, r.phoneNumber)) fun k j v => if k = i then vault j v else v

/-- Vaults for the branch at `i`, in which there are `n` so far. -/
def furnish (i : Nat) : Nat → List VaultPlan → List BankDeed
  | _, [] => []
  | n, plan :: plans =>
    .inBranch i (.installVault plan.id) ::
      inVaults i (fun j v => if j = n then v.follow plan else v) :: furnish i (n + 1) plans

end BankDeed

open BankDeed in
/-- The deeds of a change to the branch at `i`. -/
def BranchChange.deeds (c : BranchChange) (i : Nat) (r : Branch) : List BankDeed :=
  match c with
  | setAddress address => [inFront i fun r => (address, r.phoneNumber)]
  | setPhoneNumber phoneNumber => [inFront i fun r => (r.address, phoneNumber)]
  | installVault id occupied => furnish i r.vaultCount [⟨id, occupied, none⟩]
  | removeVault id => [.inBranch i (.removeVault id)]
  | fill occupied => [inVaults i fun _ => .setOccupied occupied]
  | labelVaults front => [inVaults i fun _ v => v.setId (front ++ v.id)]

/-- The deeds of a change to the first vault with this id. -/
def Branch.vaultDeeds (id : String) (f : Vault → Vault) (i : Nat) (r : Branch) : List BankDeed :=
  (r.vaultIndex? id).toList.map fun j => .inVaults i fun k v => if k = j then f v else v

/-- Deeds to the branch at a place, if there is one. -/
def Bank.atPlace (b : Bank) (p : Place) (deeds : Nat → Branch → List BankDeed) : List BankDeed :=
  match b.branch? p with
  | some r => (b.branchIndex? p).elim [] fun i => deeds i r
  | none => []

namespace World

/-- Deeds to the bank in a slot, if there is one. -/
def inBank (w : World) (slot : String) (deeds : Bank → List BankDeed) : List HouseDeed :=
  match w.banks.find? slot with
  | some b => (deeds b).map (.inBank slot)
  | none => []

end World

def BankStep.houseDeeds (s : BankStep) (w : World) : List HouseDeed :=
  match s with
  | founded slot id name customer teller =>
    match w.people.resolveOptional .customer customer, w.people.resolveOptional .teller teller with
    | .ok c, .ok t => [.found slot id name c t]
    | _, _ => []
  | clone source slot => [.clone source slot]
  | drop slot => [.drop slot]
  | get _ => []
  | counts _ => []
  | setId slot id => w.inBank slot fun b => [.amend id b.name b.customer b.teller]
  | setName slot name => w.inBank slot fun b => [.amend b.id name b.customer b.teller]
  | setCustomer slot customer =>
    match w.people.resolveOptional .customer customer with
    | .ok h => w.inBank slot fun b => [.amend b.id b.name h b.teller]
    | .error _ => []
  | setTeller slot teller =>
    match w.people.resolveOptional .teller teller with
    | .ok h => w.inBank slot fun b => [.amend b.id b.name b.customer h]
    | .error _ => []
  | openBranch slot address phoneNumber vaults => w.inBank slot fun b =>
    BankDeed.openBranch address phoneNumber :: BankDeed.furnish b.branchCount 0 vaults
  | removeBranch slot index => w.inBank slot fun _ => [.removeBranch index]
  | fill slot occupied => w.inBank slot fun _ =>
    [.overhaul (fun _ r => (r.address, r.phoneNumber)) fun _ _ => .setOccupied occupied]
  | rephone slot phoneNumber => w.inBank slot fun _ =>
    [.overhaul (fun _ r => (r.address, phoneNumber)) fun _ _ v => v]

def Step.houseDeeds (s : Step) (w : World) : List HouseDeed :=
  match s with
  | bank s => s.houseDeeds w
  | branch (.change s c) => w.inBank s.bank (·.atPlace s.place c.deeds)
  | vault (.setId s id newId) =>
    w.inBank s.bank (·.atPlace s.place (Branch.vaultDeeds id (.setId newId)))
  | vault (.setOccupied s id occupied) =>
    w.inBank s.bank (·.atPlace s.place (Branch.vaultDeeds id (.setOccupied occupied)))
  | _ => []

namespace Branch

lemma overhaul_front (r : Branch) (front : Branch → String × String) :
    r.overhaul front (fun _ v => v) = ⟨(front r).1, (front r).2, r.vaults⟩ := by
  rw [overhaul, mapIdx_const, List.map_id']

lemma overhaul_vaults (r : Branch) (vault : Nat → Vault → Vault) :
    r.overhaul (fun r => (r.address, r.phoneNumber)) vault =
      { r with vaults := r.vaults.mapIdx vault } := rfl

end Branch

namespace BankDeed

lemma perform_inFront (b : Bank) (i : Nat) (front : Branch → String × String) :
    (inFront i front).perform b =
      ({ b with branches := b.branches.modify i fun r => ⟨(front r).1, (front r).2, r.vaults⟩ },
        []) := by
  rw [← mapIdx_ite]
  simp only [inFront, perform, Branch.overhaul_front]
  congr 3
  funext k r
  split <;> rfl

lemma perform_inVaults (b : Bank) (i : Nat) (vault : Nat → Vault → Vault) :
    (inVaults i vault).perform b =
      ({ b with
          branches := b.branches.modify i fun r => { r with vaults := r.vaults.mapIdx vault } },
        []) := by
  rw [← mapIdx_ite]
  simp only [inVaults, perform, Branch.overhaul_vaults]
  congr 3
  funext k r
  split
  · rfl
  · rw [mapIdx_const, List.map_id']

lemma performAll_single (b : Bank) (d : BankDeed) : performAll b [d] = d.perform b := by
  simp [performAll]

/-- To furnish a branch where it stands is to put it back furnished. -/
lemma performAll_furnish {b : Bank} {i : Nat} {r : Branch} (here : b.branches[i]? = some r)
    (plans : List VaultPlan) :
    performAll b (furnish i r.vaultCount plans) =
      ({ b with branches := b.branches.set i (r.furnish plans).1 }, (r.furnish plans).2) := by
  induction plans generalizing b r with
  | nil =>
    rw [furnish, performAll, Branch.furnish, set_of_getElem? here]
  | cons plan plans ih =>
    obtain ⟨there, -⟩ := List.getElem?_eq_some_iff.1 here
    let installed := (r.installVault plan.id).1
    let followed := installed.updateLastVault (.follow plan)
    let next : Bank := { b with branches := b.branches.set i followed }
    have count : installed.vaultCount = r.vaultCount + 1 := Branch.vaultCount_installVault r plan.id
    have placed : (BankDeed.inBranch i (.installVault plan.id)).perform b =
        ({ b with branches := b.branches.set i installed },
          [.vaultInstalled r.address plan.id]) := by
      simp only [perform, here]
      rfl
    have changed : (inVaults i fun j v => if j = r.vaultCount then v.follow plan else v).perform
        { b with branches := b.branches.set i installed } = (next, []) := by
      have now : (b.branches.set i installed)[i]? = some installed := by simp [there]
      rw [perform_inVaults]
      simp only [modify_of_getElem? now, List.set_set, mapIdx_ite]
      simp only [next, followed, Branch.updateLastVault, count, Nat.add_sub_cancel]
    have rest := ih (b := next) (r := followed) (by simp [next, there])
    have counted : followed.vaultCount = r.vaultCount + 1 := by
      rw [← count]
      simp [followed, Branch.updateLastVault, Branch.vaultCount]
    rw [counted] at rest
    simp only [furnish, performAll, placed, changed, rest]
    simp only [next, List.set_set, Branch.furnish]
    rfl

end BankDeed

lemma Bank.performAll_openBranch (b : Bank) (address phoneNumber : String)
    (vaults : List VaultPlan) :
    BankDeed.performAll b
        (.openBranch address phoneNumber :: BankDeed.furnish b.branchCount 0 vaults) =
      ((b.openBranch address phoneNumber).1.updateLastBranch fun _ =>
          ((Branch.bare address phoneNumber).furnish vaults).1,
        (b.openBranch address phoneNumber).2 ::
          ((Branch.bare address phoneNumber).furnish vaults).2) := by
  have last : (b.openBranch address phoneNumber).1.branches[b.branchCount]? =
      some (Branch.bare address phoneNumber) := List.getElem?_concat_length ..
  have furnished := BankDeed.performAll_furnish last vaults
  rw [show (Branch.bare address phoneNumber).vaultCount = 0 from rfl] at furnished
  simp only [BankDeed.performAll, BankDeed.perform, furnished, updateLastBranch,
    branchCount_openBranch, Nat.add_sub_cancel, modify_of_getElem? last]
  rfl

lemma HouseDeed.performAll_inBank {banks : Slots Bank} {slot : String} {b : Bank}
    (here : banks.find? slot = some b) (ds : List BankDeed) :
    performAll banks (ds.map (.inBank slot)) =
      (banks.put slot (BankDeed.performAll b ds).1, (BankDeed.performAll b ds).2) := by
  induction ds generalizing banks b with
  | nil =>
    simp only [List.map_nil, performAll, BankDeed.performAll, Slots.put_of_find? here]
  | cons d ds ih =>
    have placed : (banks.put slot (d.perform b).1).find? slot = some (d.perform b).1 := by
      rw [Slots.find?_put, if_pos rfl]
    simp only [List.map_cons, performAll, perform, here, ih placed, Slots.put_put,
      BankDeed.performAll]

/-- The part of a log that tells of banks. -/
def ofBanks (log : List Event) : List Event := log.filter (·.level = .debug)

lemma ofBanks_append (log rest : List Event) :
    ofBanks (log ++ rest) = ofBanks log ++ ofBanks rest :=
  List.filter_append ..

lemma ofBanks_eq_self {log : List Event} (quiet : ∀ e ∈ log, e.level = .debug) :
    ofBanks log = log := by
  simpa [ofBanks] using quiet

lemma ofBanks_eq_nil {log : List Event} (loud : ∀ e ∈ log, e.level = .info) :
    ofBanks log = [] := by
  rw [ofBanks, List.filter_eq_nil_iff]
  intro e member
  simp [loud e member]

namespace World

/-- The banks that a reply leaves in the house, and what it logs about them. -/
def left (w : World) : Reply World → Slots Bank × List Event
  | .error _ => (w.banks, [])
  | .ok o => (o.state.banks, ofBanks o.log)

lemma left_map {α : Type} (w : World) (x : Except Refusal α) {f : α → Outcome World}
    (kept : ∀ a, (f a).state.banks = w.banks ∧ ofBanks (f a).log = []) :
    w.left (x.map f) = (w.banks, []) := by
  cases x with
  | error r => rfl
  | ok a =>
    obtain ⟨banks, log⟩ := kept a
    exact Prod.ext banks log

lemma left_bank {w : World} {slot : String} {deeds : Bank → List BankDeed}
    {f : Bank → Outcome World}
    (same : ∀ b, w.banks.find? slot = some b →
      (f b).state.banks = w.banks.put slot (BankDeed.performAll b (deeds b)).1 ∧
        ofBanks (f b).log = (BankDeed.performAll b (deeds b)).2) :
    w.left ((w.bank slot).map f) = HouseDeed.performAll w.banks (w.inBank slot deeds) := by
  simp only [bank, inBank]
  cases here : w.banks.find? slot with
  | none => rfl
  | some b =>
    obtain ⟨banks, log⟩ := same b here
    simp only [HouseDeed.performAll_inBank here]
    exact Prod.ext banks log

end World

lemma BankStep.left_perform (s : BankStep) (w : World) :
    w.left (s.perform w) = HouseDeed.performAll w.banks (s.houseDeeds w) := by
  cases s with
  | founded slot id name customer teller =>
    simp only [perform, houseDeeds]
    cases w.people.resolveOptional .customer customer with
    | error r => rfl
    | ok c =>
      cases w.people.resolveOptional .teller teller with
      | error r => rfl
      | ok t => exact Prod.ext (World.banks_putBank ..) rfl
  | clone source slot =>
    simp only [perform, houseDeeds, World.bank, HouseDeed.performAll, HouseDeed.perform]
    cases w.banks.find? source with
    | none => rfl
    | some b => exact Prod.ext (World.banks_putBank ..) rfl
  | drop slot =>
    simp only [perform, houseDeeds, World.bank, HouseDeed.performAll, HouseDeed.perform]
    cases w.banks.find? slot <;> rfl
  | get slot => exact w.left_map _ fun b => ⟨rfl, rfl⟩
  | counts slot => exact w.left_map _ fun b => ⟨rfl, rfl⟩
  | setId slot id => exact World.left_bank fun b _ => ⟨rfl, rfl⟩
  | setName slot name => exact World.left_bank fun b _ => ⟨rfl, rfl⟩
  | setCustomer slot customer =>
    simp only [perform, houseDeeds]
    cases w.people.resolveOptional .customer customer with
    | error r => rfl
    | ok h => exact World.left_bank fun b _ => ⟨rfl, rfl⟩
  | setTeller slot teller =>
    simp only [perform, houseDeeds]
    cases w.people.resolveOptional .teller teller with
    | error r => rfl
    | ok h => exact World.left_bank fun b _ => ⟨rfl, rfl⟩
  | openBranch slot address phoneNumber vaults =>
    refine World.left_bank fun b _ => ?_
    rw [b.performAll_openBranch]
    refine ⟨rfl, ofBanks_eq_self fun e member => ?_⟩
    rcases List.mem_cons.1 member with rfl | furnished
    · rfl
    · exact Branch.level_of_mem_furnish furnished
  | removeBranch slot index =>
    apply World.left_bank
    intro b here
    rw [BankDeed.performAll_single, BankDeed.perform]
    cases removed : b.removeBranch index with
    | error e => exact ⟨(Slots.put_of_find? here).symm, rfl⟩
    | ok r =>
      obtain ⟨b', e⟩ := r
      obtain ⟨r, -, -, rfl⟩ := Bank.removeBranch_cases removed
      exact ⟨rfl, rfl⟩
  | fill slot occupied =>
    apply World.left_bank
    intro b _
    simp only [BankDeed.performAll_single, BankDeed.perform, Branch.overhaul_vaults, mapIdx_const,
      Bank.updateBranches_eq, Branch.fill, Branch.updateVaults_eq]
    exact ⟨rfl, rfl⟩
  | rephone slot phoneNumber =>
    apply World.left_bank
    intro b _
    simp only [BankDeed.performAll_single, BankDeed.perform, Branch.overhaul_front, mapIdx_const,
      Bank.updateBranches_eq]
    exact ⟨rfl, rfl⟩

/-- A branch is found where its place says. -/
lemma Bank.branch?_eq_bind (b : Bank) (p : Place) :
    b.branch? p = (b.branchIndex? p).bind (b.branches[·]?) := by
  cases p with
  | index k =>
    rw [branch?, branchIndex?, branchCount]
    split
    · rfl
    · rename_i beyond
      exact List.getElem?_eq_none (Nat.le_of_not_lt beyond)
  | address a => exact List.find?_eq_bind_findIdx?_getElem?

lemma Bank.updateBranch_of_branchIndex? {b : Bank} {p : Place} {i : Nat} {r : Branch}
    (at_i : b.branchIndex? p = some i) (here : b.branches[i]? = some r) (f : Branch → Branch) :
    b.updateBranch p f = { b with branches := b.branches.set i (f r) } := by
  simp only [updateBranch, at_i, modify_of_getElem? here]

/-- A request about a branch that is there does what its deeds do; about no branch it does
nothing. -/
lemma World.left_branch {w : World} {slot : String} {p : Place}
    {deeds : Nat → Branch → List BankDeed} {f : Bank → Outcome World}
    (absent : ∀ b, b.branch? p = none → (f b).state = w ∧ (f b).log = [])
    (present : ∀ b i r, w.banks.find? slot = some b → b.branch? p = some r →
      b.branchIndex? p = some i → b.branches[i]? = some r →
        (f b).state.banks = w.banks.put slot (BankDeed.performAll b (deeds i r)).1 ∧
          ofBanks (f b).log = (BankDeed.performAll b (deeds i r)).2) :
    w.left ((w.bank slot).map f) =
      HouseDeed.performAll w.banks (w.inBank slot (·.atPlace p deeds)) := by
  apply World.left_bank
  intro b there
  have found := b.branch?_eq_bind p
  rw [Bank.atPlace]
  cases here : b.branch? p with
  | none =>
    obtain ⟨state, log⟩ := absent b here
    rw [state, log]
    exact ⟨(Slots.put_of_find? there).symm, rfl⟩
  | some r =>
    cases at_i : b.branchIndex? p with
    | none =>
      rw [here, at_i] at found
      cases found
    | some i =>
      rw [here, at_i, Option.bind_some] at found
      exact present b i r there here at_i found.symm

lemma BranchChange.performAll_deeds {c : BranchChange} {b : Bank} {i : Nat} {r changed : Branch}
    {log : List Event} (here : b.branches[i]? = some r) (applied : c.apply r = .ok (changed, log)) :
    BankDeed.performAll b (c.deeds i r) =
      ({ b with branches := b.branches.set i changed }, log) := by
  cases c with
  | installVault id occupied =>
    rw [deeds, BankDeed.performAll_furnish here]
    cases applied
    rfl
  | removeVault id =>
    simp only [apply] at applied
    obtain ⟨⟨r', e⟩, removed, same⟩ := exists_of_map_eq_ok applied
    cases same
    simp only [deeds, BankDeed.performAll_single, BankDeed.perform, here, BranchDeed.perform,
      removed]
  | setAddress address =>
    cases applied
    rw [deeds, BankDeed.performAll_single, BankDeed.perform_inFront, modify_of_getElem? here]
  | setPhoneNumber phoneNumber =>
    cases applied
    rw [deeds, BankDeed.performAll_single, BankDeed.perform_inFront, modify_of_getElem? here]
  | fill occupied =>
    cases applied
    rw [deeds, BankDeed.performAll_single, BankDeed.perform_inVaults, modify_of_getElem? here,
      mapIdx_const, Branch.fill, Branch.updateVaults_eq]
  | labelVaults front =>
    cases applied
    rw [deeds, BankDeed.performAll_single, BankDeed.perform_inVaults, modify_of_getElem? here,
      mapIdx_const, Branch.updateVaults_eq]

/-- A change that fails is the removal of a vault that is not there. -/
lemma BranchChange.performAll_deeds_error {c : BranchChange} {b : Bank} {i : Nat} {r : Branch}
    {e : Failure} (here : b.branches[i]? = some r) (failed : c.apply r = .error e) :
    BankDeed.performAll b (c.deeds i r) = (b, []) := by
  cases c with
  | removeVault id =>
    cases removed : r.removeVault id with
    | error e' =>
      simp only [deeds, BankDeed.performAll_single, BankDeed.perform, here, BranchDeed.perform,
        removed, set_of_getElem? here]
    | ok p =>
      rw [apply, removed] at failed
      cases failed
  | _ => cases failed

lemma left_replyEqual {α : Type} [DecidableEq α] (w : World) (x y : Except Refusal (Option α)) :
    w.left (replyEqual w x y) = (w.banks, []) := by
  simp only [replyEqual]
  split <;> rfl

lemma BranchStep.left_perform (s : BranchStep) (w : World) :
    w.left (s.perform w) = HouseDeed.performAll w.banks (Step.houseDeeds (.branch s) w) := by
  cases s with
  | get s => exact w.left_map _ fun b => ⟨rfl, rfl⟩
  | encode s => exact w.left_map _ fun b => ⟨rfl, rfl⟩
  | inspect s => exact w.left_map _ fun b => ⟨rfl, rfl⟩
  | change s c =>
    apply World.left_branch
    · intro b absent
      simp only [absent]
      exact ⟨rfl, rfl⟩
    · intro b i r there present at_i here
      simp only [present]
      cases applied : c.apply r with
      | error e =>
        rw [BranchChange.performAll_deeds_error here applied]
        exact ⟨(Slots.put_of_find? there).symm, rfl⟩
      | ok p =>
        obtain ⟨changed, log⟩ := p
        rw [BranchChange.performAll_deeds here applied]
        simp only [Bank.updateBranch_of_branchIndex? at_i here]
        refine ⟨rfl, ofBanks_eq_self fun e member => ?_⟩
        exact BranchChange.level_of_mem_apply applied member
  | equal s s' => exact left_replyEqual w _ _

lemma Branch.isSome_vault?_eq (r : Branch) (id : String) :
    (r.vault? id).isSome = (r.vaultIndex? id).isSome := by
  rw [vault?, vaultIndex?, List.find?_eq_bind_findIdx?_getElem?]
  cases at_j : r.vaults.findIdx? (·.id == id) with
  | none => rfl
  | some j =>
    obtain ⟨there, -⟩ := List.findIdx?_eq_some_iff_getElem.1 at_j
    simp [there]

lemma VaultStep.left_changed (w : World) (s : Spot) (id : String) (f : Vault → Vault) :
    w.left (changed w s id f) =
      HouseDeed.performAll w.banks
        (w.inBank s.bank (·.atPlace s.place (Branch.vaultDeeds id f))) := by
  apply World.left_branch
  · intro b absent
    simp only [absent]
    exact ⟨rfl, rfl⟩
  · intro b i r there present at_i here
    simp only [present, r.isSome_vault?_eq, Branch.vaultDeeds,
      Bank.updateBranch_of_branchIndex? at_i here]
    cases at_j : r.vaultIndex? id with
    | none => exact ⟨(Slots.put_of_find? there).symm, rfl⟩
    | some j =>
      simp only [Option.toList_some, List.map_singleton, BankDeed.performAll_single,
        BankDeed.perform_inVaults, modify_of_getElem? here, mapIdx_ite, Branch.updateVault, at_j]
      exact ⟨rfl, rfl⟩

lemma VaultStep.left_perform (s : VaultStep) (w : World) :
    w.left (s.perform w) = HouseDeed.performAll w.banks (Step.houseDeeds (.vault s) w) := by
  cases s with
  | get s id => exact w.left_map _ fun b => ⟨rfl, rfl⟩
  | encode s id => exact w.left_map _ fun b => ⟨rfl, rfl⟩
  | inspect s id => exact w.left_map _ fun b => ⟨rfl, rfl⟩
  | setId s id newId => exact left_changed w s id _
  | setOccupied s id occupied => exact left_changed w s id _
  | equal s id s' id' => exact left_replyEqual w _ _

lemma World.level_of_mem_putAccount {w : World} {slot : String} {a : Account} {e : Event}
    (member : e ∈ (w.putAccount slot a).2) : e.level = .info := by
  simp only [putAccount] at member
  split at member
  · cases member
  · exact Visit.level_of_mem_close member

lemma PersonStep.left_perform (s : PersonStep) (w : World) :
    w.left (s.perform w) = (w.banks, []) := by
  cases s with
  | introduce slot p => rfl
  | compare a b =>
    simp only [perform]
    split
    · split <;> rfl
    · rfl
    · rfl
  | _ => exact w.left_map _ fun _ => ⟨rfl, rfl⟩

lemma AccountStep.left_perform (s : AccountStep) (w : World) :
    w.left (s.perform w) = (w.banks, []) := by
  cases s with
  | opened slot kind id customer =>
    refine w.left_map _ fun h => ⟨World.banks_putAccount .., ofBanks_eq_nil fun e member => ?_⟩
    exact World.level_of_mem_putAccount member
  | act slot a =>
    simp only [perform]
    cases w.visit slot with
    | error r => rfl
    | ok v =>
      cases acted : a.perform v with
      | error r =>
        simp only [acted]
        rfl
      | ok o =>
        have quiet : ofBanks o.log = [] :=
          ofBanks_eq_nil fun e member => (Visit.leads_of_perform acted).level_of_mem member
        simp only [acted]
        exact Prod.ext rfl quiet
  | drop slot =>
    refine w.left_map _ fun v => ⟨rfl, ofBanks_eq_nil fun e member => ?_⟩
    exact Visit.level_of_mem_close member
  | scopedBlock slot steps =>
    refine w.left_map _ fun v => ⟨rfl, ofBanks_eq_nil fun e member => ?_⟩
    exact (leads_runBlock steps v).close_after.level_of_mem member

lemma Step.left_perform (s : Step) (w : World) :
    w.left (s.perform w) = HouseDeed.performAll w.banks (s.houseDeeds w) := by
  cases s with
  | person s => exact s.left_perform w
  | account s => exact s.left_perform w
  | bank s => exact s.left_perform w
  | branch s => exact s.left_perform w
  | vault s => exact s.left_perform w
  | malformed => rfl

lemma Step.performAll_houseDeeds (s : Step) (w : World) :
    HouseDeed.performAll w.banks (s.houseDeeds w) =
      ((s.run w).2.banks, ofBanks (s.run w).1.log) := by
  rw [← s.left_perform w, run]
  split
  · rename_i r refused
    rw [refused]
    rfl
  · rename_i a log w' done
    rw [done]
    rfl
  · rename_i e log w' done
    rw [done]
    rfl

lemma HouseDeed.performAll_append (banks : Slots Bank) (ds es : List HouseDeed) :
    performAll banks (ds ++ es) =
      ((performAll (performAll banks ds).1 es).1,
        (performAll banks ds).2 ++ (performAll (performAll banks ds).1 es).2) := by
  induction ds generalizing banks with
  | nil => rfl
  | cons d ds ih =>
    simp only [List.cons_append, performAll, ih, List.append_assoc]

namespace World

/-- What a run does to banks. -/
def houseDeeds (w : World) : List Step → List HouseDeed
  | [] => []
  | s :: ss => s.houseDeeds w ++ (s.run w).2.houseDeeds ss

lemma performAll_houseDeeds (w : World) (steps : List Step) :
    HouseDeed.performAll w.banks (w.houseDeeds steps) =
      ((w.run steps).2.banks, ofBanks ((w.run steps).1.flatMap Entry.log)) := by
  induction steps generalizing w with
  | nil => rfl
  | cons s ss ih =>
    rw [houseDeeds, HouseDeed.performAll_append, s.performAll_houseDeeds w, ih]
    simp only [run, List.flatMap_cons, ofBanks_append]

end World
end Countinghouse
