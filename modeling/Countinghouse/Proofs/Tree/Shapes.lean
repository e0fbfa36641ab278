import Countinghouse.Proofs.Tree.Deeds
import Countinghouse.Proofs.Tree.Positions

/-!
The shape of a bank: how many vaults each of its branches has. A deed that changes the shape reports
what it changed, and any other deed is silent.
-/
namespace Countinghouse

namespace Bank

def shape (b : Bank) : List Nat := b.branches.map Branch.vaultCount

/-- A log that a deed may leave, and the shape that it then leaves. -/
inductive Change (b : Bank) : List Event → List Nat → Prop
  | silent : Change b [] b.shape
  | branchOpened (address : String) :
      Change b [.branchOpened b.name address] (b.shape ++ [0])
  | branchRemoved (i : Nat) (r : Branch) (here : b.branches[i]? = some r) :
      Change b [.branchRemoved b.name r.address r.vaultCount] (b.shape.eraseIdx i)
  | vaultInstalled (i : Nat) (r : Branch) (here : b.branches[i]? = some r) (id : String) :
      Change b [.vaultInstalled r.address id] (b.shape.set i (r.vaultCount + 1))
  | vaultRemoved (i n : Nat) (r : Branch) (here : b.branches[i]? = some r)
      (many : r.vaultCount = n + 1) (id : String) :
      Change b [.vaultRemoved r.address id] (b.shape.set i n)

lemma shape_getElem? {b : Bank} {i : Nat} {r : Branch} (here : b.branches[i]? = some r) :
    b.shape[i]? = some r.vaultCount := by
  rw [shape, List.getElem?_map, here, Option.map_some]

lemma length_shape (b : Bank) : b.shape.length = b.branchCount := List.length_map ..

lemma sum_shape (b : Bank) : b.shape.sum = b.vaultCount := List.sum_eq_foldl

end Bank

lemma Branch.vaultCount_overhaul (r : Branch) (front : Branch → String × String)
    (vault : Nat → Vault → Vault) : (r.overhaul front vault).vaultCount = r.vaultCount :=
  List.length_mapIdx

lemma Branch.removeVault_cases {r r' : Branch} {id : String} {e : Event}
    (removed : r.removeVault id = .ok (r', e)) :
    e = .vaultRemoved r.address id ∧ r.vaultCount = r'.vaultCount + 1 := by
  simp only [removeVault] at removed
  split at removed
  · rename_i j found
    obtain ⟨there, -⟩ := List.findIdx?_eq_some_iff_getElem.1 found
    cases removed
    exact ⟨rfl, (List.length_eraseIdx_add_one there).symm⟩
  · cases removed

namespace Bank

lemma change_inBranch {b : Bank} {i : Nat} {r : Branch} (here : b.branches[i]? = some r)
    (d : BranchDeed) :
    b.Change (d.perform r).2 (b.shape.set i (d.perform r).1.vaultCount) := by
  cases d with
  | installVault id =>
    simp only [BranchDeed.perform, Branch.vaultCount_installVault]
    exact .vaultInstalled i r here id
  | removeVault id =>
    simp only [BranchDeed.perform]
    cases removed : r.removeVault id with
    | error e =>
      simp only [set_of_getElem? (shape_getElem? here)]
      exact .silent
    | ok p =>
      obtain ⟨r', e⟩ := p
      obtain ⟨rfl, many⟩ := Branch.removeVault_cases removed
      exact .vaultRemoved i _ r here many id

/-- Whatever is done to a bank, its log tells the change of its shape. -/
lemma change_perform (d : BankDeed) (b : Bank) :
    b.Change (d.perform b).2 (d.perform b).1.shape := by
  cases d with
  | amend id name customer teller => exact .silent
  | openBranch address phoneNumber =>
    have opened : (b.openBranch address phoneNumber).1.shape = b.shape ++ [0] := List.map_append
    simp only [BankDeed.perform, opened]
    exact .branchOpened address
  | removeBranch index =>
    simp only [BankDeed.perform, removeBranch]
    cases here : b.branches[index.toNat]? with
    | none => exact .silent
    | some r =>
      simp only [shape, ← List.eraseIdx_map]
      exact .branchRemoved index.toNat r here
  | inBranch i d =>
    simp only [BankDeed.perform]
    cases here : b.branches[i]? with
    | none => exact .silent
    | some r =>
      simp only [shape, List.map_set]
      exact change_inBranch here d
  | overhaul front vault =>
    have same := map_mapIdx_of_eq (f := fun i (r : Branch) => r.overhaul (front i) (vault i))
      (g := Branch.vaultCount) (fun i r => r.vaultCount_overhaul (front i) (vault i)) b.branches
    simp only [BankDeed.perform, shape, same]
    exact .silent

namespace Change

variable {b : Bank} {log : List Event} {shape : List Nat}

/-- No more than one change is reported at a time. -/
lemma length_le_one (change : b.Change log shape) : log.length ≤ 1 := by
  cases change <;> simp

/-- Whoever is silent has changed nothing, and whoever has changed nothing is silent. -/
lemma silent_iff (change : b.Change log shape) : log = [] ↔ shape = b.shape := by
  cases change with
  | silent => exact ⟨fun _ => rfl, fun _ => rfl⟩
  | branchOpened address => exact iff_of_false (List.cons_ne_nil _ _) (by simp)
  | branchRemoved i r here =>
    refine iff_of_false (List.cons_ne_nil _ _) fun same => ?_
    have there := (List.getElem?_eq_some_iff.1 (shape_getElem? here)).1
    have shorter := List.length_eraseIdx_add_one there
    rw [same] at shorter
    omega
  | vaultInstalled i r here id =>
    refine iff_of_false (List.cons_ne_nil _ _) fun same => ?_
    have before := shape_getElem? here
    rw [← same, List.getElem?_set_self'] at before
    simp [shape_getElem? here] at before
  | vaultRemoved i n r here many id =>
    refine iff_of_false (List.cons_ne_nil _ _) fun same => ?_
    have before := shape_getElem? here
    rw [← same, List.getElem?_set_self'] at before
    simp [shape_getElem? here, many] at before

end Change
end Bank
end Countinghouse
