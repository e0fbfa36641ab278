import Countinghouse.Proofs.Slots.Map
import Countinghouse.Proofs.Tree.Deeds
import Countinghouse.Proofs.Tree.Ledger
import Countinghouse.Proofs.Tree.Positions
import Mathlib.Data.List.InsertIdx

/-!
Deeds done to marked banks, with a ledger of all births and of whoever left. Marks change nothing:
without them, the deeds are those done to banks.
-/
namespace Countinghouse

namespace MarkedBranch

def overhaul (r : MarkedBranch) (front : Branch → String × String) (vault : Nat → Vault → Vault) :
    MarkedBranch :=
  { r with
    address := (front r.plain).1
    phoneNumber := (front r.plain).2
    vaults := r.vaults.mapIdx fun j v => { v with vault := vault j v.vault } }

def perform (d : BranchDeed) (r : MarkedBranch) (l : Ledger) : MarkedBranch × Ledger :=
  match d with
  | .installVault id =>
    ({ r with vaults := r.vaults ++ [⟨⟨l.next, some r.mark⟩, ⟨id, false⟩⟩] },
      l.enter [⟨l.next, some r.mark⟩])
  | .removeVault id =>
    match r.vaults.find? (·.vault.id == id) with
    | some v => ({ r with vaults := r.vaults.eraseP (·.vault.id == id) }, l.record (.vault r v))
    | none => (r, l)

end MarkedBranch

namespace MarkedBank

def perform (d : BankDeed) (b : MarkedBank) (l : Ledger) : MarkedBank × Ledger :=
  match d with
  | .amend id name customer teller => (⟨b.toBirth, id, name, customer, teller, b.branches⟩, l)
  | .openBranch address phoneNumber =>
    ({ b with branches := b.branches ++ [(Branch.bare address phoneNumber).marked b.mark l.next] },
      l.enter [⟨l.next, some b.mark⟩])
  | .removeBranch index =>
    match b.branches[index.toNat]? with
    | some r => ({ b with branches := b.branches.eraseIdx index.toNat }, l.record (.branch b r))
    | none => (b, l)
  | .inBranch i d =>
    match b.branches[i]? with
    | some r => ({ b with branches := b.branches.set i (r.perform d l).1 }, (r.perform d l).2)
    | none => (b, l)
  | .overhaul front vault =>
    ({ b with branches := b.branches.mapIdx fun i r => r.overhaul (front i) (vault i) }, l)

end MarkedBank

/-- All banks, with the ledger of their marks. -/
structure MarkedHouse where
  banks : Slots MarkedBank
  ledger : Ledger

namespace MarkedHouse

def empty : MarkedHouse := ⟨.empty, .empty⟩

def plain (h : MarkedHouse) : Slots Bank := h.banks.map MarkedBank.plain

/-- A bank that is new to the house is marked throughout; what it takes the place of is gone. -/
def receive (h : MarkedHouse) (slot : String) (b : Bank) : MarkedHouse :=
  let marked := b.marked h.ledger.next
  let ledger := h.ledger.enter marked.births
  ⟨h.banks.put slot marked,
    match h.banks.find? slot with
    | some old => ledger.record (.bank old)
    | none => ledger⟩

def perform (d : HouseDeed) (h : MarkedHouse) : MarkedHouse :=
  match d with
  | .found slot id name customer teller => h.receive slot ⟨id, name, customer, teller, []⟩
  | .clone source slot =>
    match h.banks.find? source with
    | some b => h.receive slot b.plain.clone
    | none => h
  | .drop slot =>
    match h.banks.find? slot with
    | some b => ⟨h.banks.clear slot, h.ledger.record (.bank b)⟩
    | none => h
  | .inBank slot d =>
    match h.banks.find? slot with
    | some b => ⟨h.banks.put slot (b.perform d h.ledger).1, (b.perform d h.ledger).2⟩
    | none => h

def performAll (h : MarkedHouse) (ds : List HouseDeed) : MarkedHouse :=
  ds.foldl (fun h d => h.perform d) h

end MarkedHouse

lemma MarkedBranch.plain_overhaul (r : MarkedBranch) (front : Branch → String × String)
    (vault : Nat → Vault → Vault) :
    (r.overhaul front vault).plain = r.plain.overhaul front vault := by
  have vaults := map_mapIdx_of_comm
    (f := fun j (v : MarkedVault) => { v with vault := vault j v.vault })
    (g := MarkedVault.vault) (k := vault) (fun _ _ => rfl) r.vaults
  simp only [overhaul, plain, Branch.overhaul, vaults]

lemma Branch.removeVault_eq (b : Branch) (id : String) :
    b.removeVault id =
      match b.vaults.find? (·.id == id) with
      | some _ =>
        .ok ({ b with vaults := b.vaults.eraseP (·.id == id) }, .vaultRemoved b.address id)
      | none => .error (.vaultNotFound id) := by
  rw [removeVault, List.eraseP_eq_eraseIdx, List.find?_eq_bind_findIdx?_getElem?]
  cases found : b.vaults.findIdx? (·.id == id) with
  | none => rfl
  | some i =>
    obtain ⟨there, -⟩ := List.findIdx?_eq_some_iff_getElem.1 found
    rw [Option.bind_some, List.getElem?_eq_getElem there]

lemma MarkedBranch.plain_perform (d : BranchDeed) (r : MarkedBranch) (l : Ledger) :
    (r.perform d l).1.plain = (d.perform r.plain).1 ∧
      (r.perform d l).2.reports = l.reports ++ removals (d.perform r.plain).2 := by
  cases d with
  | installVault id =>
    constructor
    · simp only [perform, plain, BranchDeed.perform, Branch.installVault, List.map_append,
        List.map_singleton]
    · exact (List.append_nil _).symm
  | removeVault id =>
    have found : r.plain.vaults.find? (·.id == id) =
        (r.vaults.find? (·.vault.id == id)).map MarkedVault.vault := List.find?_map
    have erased : r.plain.vaults.eraseP (·.id == id) =
        (r.vaults.eraseP (·.vault.id == id)).map MarkedVault.vault := List.eraseP_map
    simp only [perform, BranchDeed.perform, Branch.removeVault_eq, found, erased]
    cases here : r.vaults.find? (·.vault.id == id) with
    | none => exact ⟨rfl, (List.append_nil _).symm⟩
    | some v =>
      have same : v.vault.id = id := by simpa using List.find?_some here
      refine ⟨rfl, ?_⟩
      rw [Ledger.reports_record, Departure.report, same]
      rfl

lemma MarkedBank.plain_perform (d : BankDeed) (b : MarkedBank) (l : Ledger) :
    (b.perform d l).1.plain = (d.perform b.plain).1 ∧
      (b.perform d l).2.reports = l.reports ++ removals (d.perform b.plain).2 := by
  cases d with
  | amend id name customer teller => exact ⟨rfl, (List.append_nil _).symm⟩
  | openBranch address phoneNumber =>
    refine ⟨?_, (List.append_nil _).symm⟩
    simp only [perform, plain, BankDeed.perform, Bank.openBranch, List.map_append,
      List.map_singleton, Branch.plain_marked]
  | removeBranch index =>
    have found : b.plain.branches[index.toNat]? = b.branches[index.toNat]?.map (·.plain) :=
      List.getElem?_map ..
    simp only [perform, BankDeed.perform, Bank.removeBranch, found]
    cases b.branches[index.toNat]? with
    | none => exact ⟨rfl, (List.append_nil _).symm⟩
    | some r =>
      constructor
      · simp only [plain, Option.map_some, List.eraseIdx_map]
      · rw [Ledger.reports_record]
        simp [Departure.report, removals, Branch.vaultCount, MarkedBranch.plain, plain]
  | inBranch i d =>
    have found : b.plain.branches[i]? = b.branches[i]?.map (·.plain) := List.getElem?_map ..
    simp only [perform, BankDeed.perform, found]
    cases b.branches[i]? with
    | none => exact ⟨rfl, (List.append_nil _).symm⟩
    | some r =>
      obtain ⟨same, reports⟩ := r.plain_perform d l
      refine ⟨?_, reports⟩
      simp only [plain, Option.map_some, List.map_set, same]
  | overhaul front vault =>
    refine ⟨?_, (List.append_nil _).symm⟩
    have branches := map_mapIdx_of_comm
      (f := fun i (r : MarkedBranch) => r.overhaul (front i) (vault i)) (g := MarkedBranch.plain)
      (k := fun i (r : Branch) => r.overhaul (front i) (vault i))
      (fun i r => r.plain_overhaul (front i) (vault i)) b.branches
    simp only [perform, plain, BankDeed.perform, branches]

namespace MarkedHouse

lemma find?_plain (h : MarkedHouse) (slot : String) :
    h.plain.find? slot = (h.banks.find? slot).map MarkedBank.plain :=
  Slots.find?_map _ _ _

lemma plain_receive (h : MarkedHouse) (slot : String) (b : Bank) :
    (h.receive slot b).plain = h.plain.put slot b ∧
      (h.receive slot b).ledger.reports = h.ledger.reports := by
  constructor
  · simp only [plain, receive, Slots.map_put, Bank.plain_marked]
  · simp only [receive]
    split
    · rw [Ledger.reports_record]
      exact List.append_nil _
    · rfl

lemma plain_perform (d : HouseDeed) (h : MarkedHouse) :
    (h.perform d).plain = (d.perform h.plain).1 ∧
      (h.perform d).ledger.reports = h.ledger.reports ++ removals (d.perform h.plain).2 := by
  cases d with
  | found slot id name customer teller =>
    obtain ⟨same, reports⟩ := h.plain_receive slot ⟨id, name, customer, teller, []⟩
    exact ⟨same, reports.trans (List.append_nil _).symm⟩
  | clone source slot =>
    simp only [perform, HouseDeed.perform, find?_plain]
    cases h.banks.find? source with
    | none => exact ⟨rfl, (List.append_nil _).symm⟩
    | some b =>
      obtain ⟨same, reports⟩ := h.plain_receive slot b.plain.clone
      exact ⟨same, reports.trans (List.append_nil _).symm⟩
  | drop slot =>
    simp only [perform, HouseDeed.perform, find?_plain]
    cases h.banks.find? slot with
    | none => exact ⟨rfl, (List.append_nil _).symm⟩
    | some b =>
      refine ⟨Slots.map_clear _ _ _, ?_⟩
      rw [Ledger.reports_record]
      rfl
  | inBank slot d =>
    simp only [perform, HouseDeed.perform, find?_plain]
    cases h.banks.find? slot with
    | none => exact ⟨rfl, (List.append_nil _).symm⟩
    | some b =>
      obtain ⟨same, reports⟩ := b.plain_perform d h.ledger
      refine ⟨?_, reports⟩
      simp only [plain, Slots.map_put, same, Option.map_some]

lemma plain_performAll (h : MarkedHouse) (ds : List HouseDeed) :
    (h.performAll ds).plain = (HouseDeed.performAll h.plain ds).1 ∧
      (h.performAll ds).ledger.reports =
        h.ledger.reports ++ removals (HouseDeed.performAll h.plain ds).2 := by
  induction ds generalizing h with
  | nil => exact ⟨rfl, (List.append_nil _).symm⟩
  | cons d ds ih =>
    obtain ⟨same, reports⟩ := h.plain_perform d
    obtain ⟨last, rest⟩ := ih (h.perform d)
    rw [same] at last rest
    refine ⟨last, rest.trans ?_⟩
    rw [reports, List.append_assoc, ← removals_append]
    rfl

end MarkedHouse
end Countinghouse
