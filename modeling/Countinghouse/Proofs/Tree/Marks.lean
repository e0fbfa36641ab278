import Countinghouse.Bank
import Mathlib.Algebra.GroupWithZero.Nat
import Mathlib.Data.List.Range
import Mathlib.Tactic.Common

/-!
Banks, branches and vaults with the records of their births: the mark that each was given then, and
the mark of the owner that it was given to.
-/
namespace Countinghouse

/-- Banks have no owner. -/
structure Birth where
  mark : Nat
  home : Option Nat
deriving DecidableEq, Repr

structure MarkedVault extends Birth where
  vault : Vault

structure MarkedBranch extends Birth where
  address : String
  phoneNumber : String
  vaults : List MarkedVault

structure MarkedBank extends Birth where
  id : Int64
  name : String
  customer : Option Handle
  teller : Option Handle
  branches : List MarkedBranch

def MarkedBranch.plain (r : MarkedBranch) : Branch :=
  ⟨r.address, r.phoneNumber, r.vaults.map MarkedVault.vault⟩

def MarkedBank.plain (b : MarkedBank) : Bank :=
  ⟨b.id, b.name, b.customer, b.teller, b.branches.map MarkedBranch.plain⟩

def MarkedBranch.births (r : MarkedBranch) : List Birth :=
  r.toBirth :: r.vaults.map MarkedVault.toBirth

def MarkedBank.births (b : MarkedBank) : List Birth :=
  b.toBirth :: b.branches.flatMap MarkedBranch.births

/-- The vaults of a branch stand in the order of their marks, and were born to it. -/
structure MarkedBranch.Orderly (r : MarkedBranch) : Prop where
  ascending : (r.vaults.map (·.mark)).Pairwise (· < ·)
  home : ∀ v ∈ r.vaults, v.home = some r.mark

structure MarkedBank.Orderly (b : MarkedBank) : Prop where
  ascending : (b.branches.map (·.mark)).Pairwise (· < ·)
  home : ∀ r ∈ b.branches, r.home = some b.mark
  branches : ∀ r ∈ b.branches, r.Orderly

def markVaults (home : Nat) : Nat → List Vault → List MarkedVault
  | _, [] => []
  | n, v :: vs => ⟨⟨n, some home⟩, v⟩ :: markVaults home (n + 1) vs

def Branch.size (r : Branch) : Nat := r.vaultCount + 1

def Branch.marked (home n : Nat) (r : Branch) : MarkedBranch :=
  ⟨⟨n, some home⟩, r.address, r.phoneNumber, markVaults n (n + 1) r.vaults⟩

def markBranches (home : Nat) : Nat → List Branch → List MarkedBranch
  | _, [] => []
  | n, r :: rs => r.marked home n :: markBranches home (n + r.size) rs

def Bank.size (b : Bank) : Nat := (b.branches.map Branch.size).sum + 1

def Bank.marked (n : Nat) (b : Bank) : MarkedBank :=
  ⟨⟨n, none⟩, b.id, b.name, b.customer, b.teller, markBranches n (n + 1) b.branches⟩

@[simp] lemma vault_markVaults (home n : Nat) (vs : List Vault) :
    (markVaults home n vs).map MarkedVault.vault = vs := by
  induction vs generalizing n with
  | nil => rfl
  | cons v vs ih => rw [markVaults, List.map_cons, ih]

@[simp] lemma Branch.plain_marked (home n : Nat) (r : Branch) : (r.marked home n).plain = r := by
  rw [marked, MarkedBranch.plain, vault_markVaults]

@[simp] lemma plain_markBranches (home n : Nat) (rs : List Branch) :
    (markBranches home n rs).map MarkedBranch.plain = rs := by
  induction rs generalizing n with
  | nil => rfl
  | cons r rs ih => rw [markBranches, List.map_cons, ih, Branch.plain_marked]

@[simp] lemma Bank.plain_marked (n : Nat) (b : Bank) : (b.marked n).plain = b := by
  rw [marked, MarkedBank.plain, plain_markBranches]

lemma mark_markVaults (home n : Nat) (vs : List Vault) :
    (markVaults home n vs).map (·.mark) = List.range' n vs.length := by
  induction vs generalizing n with
  | nil => rfl
  | cons v vs ih => rw [markVaults, List.map_cons, ih, List.length_cons, List.range'_succ]

lemma Branch.mark_births_marked (home n : Nat) (r : Branch) :
    (r.marked home n).births.map Birth.mark = List.range' n r.size := by
  have vaults := mark_markVaults n (n + 1) r.vaults
  rw [MarkedBranch.births, marked, List.map_cons, List.map_map, size, List.range'_succ]
  exact congrArg (n :: ·) vaults

lemma mark_births_markBranches (home n : Nat) (rs : List Branch) :
    ((markBranches home n rs).flatMap MarkedBranch.births).map Birth.mark =
      List.range' n (rs.map Branch.size).sum := by
  induction rs generalizing n with
  | nil => rfl
  | cons r rs ih =>
    rw [markBranches, List.flatMap_cons, List.map_append, ih, Branch.mark_births_marked,
      List.range'_append_1, List.map_cons, List.sum_cons]

lemma Bank.mark_births_marked (n : Nat) (b : Bank) :
    (b.marked n).births.map Birth.mark = List.range' n b.size := by
  rw [MarkedBank.births, marked, List.map_cons, mark_births_markBranches, size, List.range'_succ]

lemma home_of_mem_markVaults {home n : Nat} {vs : List Vault} {v : MarkedVault}
    (member : v ∈ markVaults home n vs) : v.home = some home := by
  induction vs generalizing n with
  | nil => cases member
  | cons u vs ih =>
    rcases List.mem_cons.1 member with rfl | later
    · rfl
    · exact ih later

lemma Branch.orderly_marked (home n : Nat) (r : Branch) : (r.marked home n).Orderly where
  ascending := by
    rw [marked, mark_markVaults]
    exact List.pairwise_lt_range'
  home _ member := home_of_mem_markVaults member

lemma exists_of_mem_markBranches {home n : Nat} {rs : List Branch} {m : MarkedBranch}
    (member : m ∈ markBranches home n rs) : ∃ k r, m = Branch.marked home k r := by
  induction rs generalizing n with
  | nil => cases member
  | cons r rs ih =>
    rcases List.mem_cons.1 member with rfl | later
    · exact ⟨n, r, rfl⟩
    · exact ih later

/-- The births of owners are among all births. -/
lemma toBirth_sublist_births (rs : List MarkedBranch) :
    List.Sublist (rs.map MarkedBranch.toBirth) (rs.flatMap MarkedBranch.births) := by
  induction rs with
  | nil => exact List.Sublist.slnil
  | cons r rs ih =>
    rw [List.map_cons, List.flatMap_cons]
    exact (ih.trans (List.sublist_append_right _ _)).cons_cons r.toBirth

lemma Bank.orderly_marked (n : Nat) (b : Bank) : (b.marked n).Orderly where
  ascending := by
    have marks := (toBirth_sublist_births (b.marked n).branches).map Birth.mark
    rw [List.map_map, marked, mark_births_markBranches] at marks
    exact List.Pairwise.sublist marks List.pairwise_lt_range'
  home r member := by
    obtain ⟨k, plain, rfl⟩ := exists_of_mem_markBranches member
    rfl
  branches r member := by
    obtain ⟨k, plain, rfl⟩ := exists_of_mem_markBranches member
    exact plain.orderly_marked n k

end Countinghouse
