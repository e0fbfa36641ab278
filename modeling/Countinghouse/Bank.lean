import Countinghouse.Bank.Branch
import Countinghouse.Register

/-! Banks: each owns its branches and refers to a customer and a teller. -/
namespace Countinghouse

/-- Branches stand in the order of their opening. -/
structure Bank where
  id : Int64
  name : String
  customer : Option Handle
  teller : Option Handle
  branches : List Branch
deriving DecidableEq, Repr, Inhabited

/-- Where a branch is looked for: by position, or the first one at an address. -/
inductive Place
  | index (i : UInt64)
  | address (a : String)
deriving DecidableEq, Repr

namespace Bank

def branchCount (b : Bank) : Nat := b.branches.length

def vaultCount (b : Bank) : Nat := (b.branches.map Branch.vaultCount).foldl Nat.add 0

/-- The handles that the bank holds. -/
def handles (b : Bank) : List Handle := b.customer.toList ++ b.teller.toList

/-- A bank with copies of all branches, and with the same handles. -/
def clone (b : Bank) : Bank :=
  ⟨b.id, b.name, b.customer, b.teller, b.branches.map Branch.duplicate⟩

theorem clone_eq (b : Bank) : b.clone = b := by
  rw [clone, List.map_id'' Branch.duplicate_eq]

def branch? (b : Bank) : Place → Option Branch
  | .index i => b.branches[i.toNat]?
  | .address a => b.branches.find? (·.address == a)

def branchIndex? (b : Bank) : Place → Option Nat
  | .index i => if i.toNat < b.branchCount then some i.toNat else none
  | .address a => b.branches.findIdx? (·.address == a)

/-- Changes the branch at this place. -/
def updateBranch (b : Bank) (p : Place) (f : Branch → Branch) : Bank :=
  match b.branchIndex? p with
  | some i => { b with branches := b.branches.modify i f }
  | none => b

def updateLastBranch (b : Bank) (f : Branch → Branch) : Bank :=
  { b with branches := b.branches.modify (b.branchCount - 1) f }

def walkBranches {σ : Type} (b : Bank) (turn : σ → Branch → Branch × σ) (s : σ) : Bank × σ :=
  let (branches, last) := walk turn s b.branches
  ({ b with branches := branches }, last)

def updateBranches (b : Bank) (f : Branch → Branch) : Bank :=
  (b.walkBranches (fun _ r => (f r, ())) ()).1

theorem updateBranches_eq (b : Bank) (f : Branch → Branch) :
    b.updateBranches f = { b with branches := b.branches.map f } := by
  simp only [updateBranches, walkBranches, walk_unit]

/-- A new branch stands last and has no vaults. -/
def openBranch (b : Bank) (address phoneNumber : String) : Bank × Event :=
  ({ b with branches := b.branches ++ [.bare address phoneNumber] }, .branchOpened b.name address)

/-- A removed branch goes with all its vaults. -/
def removeBranch (b : Bank) (index : UInt64) : Except Failure (Bank × Event) :=
  match b.branches[index.toNat]? with
  | some branch =>
    .ok ({ b with branches := b.branches.eraseIdx index.toNat },
      .branchRemoved b.name branch.address branch.vaultCount)
  | none => .error (.branchNotFound index)

@[simp] theorem branchCount_openBranch (b : Bank) (address phoneNumber : String) :
    (b.openBranch address phoneNumber).1.branchCount = b.branchCount + 1 := by
  simp [openBranch, branchCount]

end Bank
end Countinghouse
