import Countinghouse.Bank
import Countinghouse.Slots

/-!
All that can be done to banks and to what they own, without regard to who asks for it. A deed that
finds nothing to act on does nothing.
-/
namespace Countinghouse

/-- New words for the front of a branch, and new contents for the vaults in it. -/
def Branch.overhaul (r : Branch) (front : Branch → String × String) (vault : Nat → Vault → Vault) :
    Branch :=
  ⟨(front r).1, (front r).2, r.vaults.mapIdx vault⟩

inductive BranchDeed
  | installVault (id : String)
  | removeVault (id : String)

/-- An overhaul stands for any setters, called on any of the branches and vaults. -/
inductive BankDeed
  | amend (id : Int64) (name : String) (customer teller : Option Handle)
  | openBranch (address phoneNumber : String)
  | removeBranch (index : UInt64)
  | inBranch (i : Nat) (d : BranchDeed)
  | overhaul (front : Nat → Branch → String × String) (vault : Nat → Nat → Vault → Vault)

inductive HouseDeed
  | found (slot : String) (id : Int64) (name : String) (customer teller : Option Handle)
  | clone (source slot : String)
  | drop (slot : String)
  | inBank (slot : String) (d : BankDeed)

def BranchDeed.perform (d : BranchDeed) (r : Branch) : Branch × List Event :=
  match d with
  | installVault id => ((r.installVault id).1, [(r.installVault id).2])
  | removeVault id =>
    match r.removeVault id with
    | .ok (r', event) => (r', [event])
    | .error _ => (r, [])

def BankDeed.perform (d : BankDeed) (b : Bank) : Bank × List Event :=
  match d with
  | amend id name customer teller => (⟨id, name, customer, teller, b.branches⟩, [])
  | openBranch address phoneNumber =>
    ((b.openBranch address phoneNumber).1, [(b.openBranch address phoneNumber).2])
  | removeBranch index =>
    match b.removeBranch index with
    | .ok (b', event) => (b', [event])
    | .error _ => (b, [])
  | inBranch i d =>
    match b.branches[i]? with
    | some r => ({ b with branches := b.branches.set i (d.perform r).1 }, (d.perform r).2)
    | none => (b, [])
  | overhaul front vault =>
    ({ b with branches := b.branches.mapIdx fun i r => r.overhaul (front i) (vault i) }, [])

namespace HouseDeed

def perform (d : HouseDeed) (banks : Slots Bank) : Slots Bank × List Event :=
  match d with
  | found slot id name customer teller => (banks.put slot ⟨id, name, customer, teller, []⟩, [])
  | clone source slot =>
    match banks.find? source with
    | some b => (banks.put slot b.clone, [])
    | none => (banks, [])
  | drop slot =>
    match banks.find? slot with
    | some _ => (banks.clear slot, [])
    | none => (banks, [])
  | inBank slot d =>
    match banks.find? slot with
    | some b => (banks.put slot (d.perform b).1, (d.perform b).2)
    | none => (banks, [])

def performAll (banks : Slots Bank) : List HouseDeed → Slots Bank × List Event
  | [] => (banks, [])
  | d :: ds =>
    let (next, log) := d.perform banks
    let (last, rest) := performAll next ds
    (last, log ++ rest)

end HouseDeed
end Countinghouse
