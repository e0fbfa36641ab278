import Countinghouse.Bank.Furnishing
import Countinghouse.Bank
import Mathlib.Tactic.Common

/-!
The child that a search stops at. A list is taken apart at the first of its elements that has a
given key; what is looked up, changed or removed under that key is that element, and the others stay
where they are. So it is with the vaults of a branch by their ids and with the branches of a bank by
their addresses.
-/
namespace Countinghouse

section

variable {α : Type} {key : α → String} {k : String} {before after : List α} {a : α}

/-- An element has this key, and those before it do not. -/
structure IsFirst (key : α → String) (k : String) (before : List α) (a : α) : Prop where
  fits : key a = k
  others : ∀ b ∈ before, key b ≠ k

lemma find?_eq_some_iff_isFirst {l : List α} :
    l.find? (key · == k) = some a ↔
      ∃ before after, l = before ++ a :: after ∧ IsFirst key k before a := by
  rw [List.find?_eq_some_iff_append]
  constructor
  · rintro ⟨fits, before, after, split, others⟩
    refine ⟨before, after, split, beq_iff_eq.1 fits, fun b member => ?_⟩
    simpa using others b member
  · rintro ⟨before, after, split, fits, others⟩
    refine ⟨beq_iff_eq.2 fits, before, after, split, fun b member => ?_⟩
    simpa using others b member

lemma find?_eq_none_iff_forall {l : List α} :
    l.find? (key · == k) = none ↔ ∀ b ∈ l, key b ≠ k := by
  simp

lemma findIdx?_eq_none_iff_forall {l : List α} :
    l.findIdx? (key · == k) = none ↔ ∀ b ∈ l, key b ≠ k := by
  simp [List.findIdx?_eq_none_iff]

lemma IsFirst.findIdx?_eq (first : IsFirst key k before a) (after : List α) :
    (before ++ a :: after).findIdx? (key · == k) = some before.length := by
  rw [List.findIdx?_append, findIdx?_eq_none_iff_forall.2 first.others, List.findIdx?_cons,
    beq_iff_eq.2 first.fits]
  simp

lemma modify_append_cons (before after : List α) (a : α) (f : α → α) :
    (before ++ a :: after).modify before.length f = before ++ f a :: after := by
  rw [List.modify_eq_take_drop, List.take_left, List.drop_left, List.modifyHead_cons]

lemma eraseIdx_append_cons (before after : List α) (a : α) :
    (before ++ a :: after).eraseIdx before.length = before ++ after := by
  rw [List.eraseIdx_append_of_length_le (Nat.le_refl _), Nat.sub_self, List.eraseIdx_cons_zero]

lemma getElem?_append_cons (before after : List α) (a : α) :
    (before ++ a :: after)[before.length]? = some a := by
  rw [List.getElem?_append_right (Nat.le_refl _), Nat.sub_self, List.getElem?_cons_zero]

end

namespace Branch

variable {r : Branch} {id : String} {before after : List Vault} {v : Vault}

/-- The first vault with this id stands between the others. -/
structure Designates (r : Branch) (id : String) (before : List Vault) (v : Vault)
    (after : List Vault) : Prop where
  split : r.vaults = before ++ v :: after
  first : IsFirst Vault.id id before v

lemma vault?_eq_some_iff :
    r.vault? id = some v ↔ ∃ before after, r.Designates id before v after := by
  rw [vault?, find?_eq_some_iff_isFirst]
  constructor
  · rintro ⟨before, after, split, first⟩
    exact ⟨before, after, split, first⟩
  · rintro ⟨before, after, split, first⟩
    exact ⟨before, after, split, first⟩

lemma vault?_eq_none_iff : r.vault? id = none ↔ ∀ v ∈ r.vaults, v.id ≠ id :=
  find?_eq_none_iff_forall

lemma Designates.vaultIndex?_eq (found : r.Designates id before v after) :
    r.vaultIndex? id = some before.length := by
  rw [vaultIndex?, found.split]
  exact found.first.findIdx?_eq after

lemma Designates.updateVault_eq (found : r.Designates id before v after) (f : Vault → Vault) :
    r.updateVault id f = { r with vaults := before ++ f v :: after } := by
  rw [updateVault, found.vaultIndex?_eq]
  simp only [found.split, modify_append_cons]

lemma removeVault_eq_error_iff {e : Failure} :
    r.removeVault id = .error e ↔ r.vault? id = none ∧ e = .vaultNotFound id := by
  rw [removeVault, vault?_eq_none_iff, ← findIdx?_eq_none_iff_forall]
  cases r.vaults.findIdx? (·.id == id) <;> simp [eq_comm]

lemma Designates.removeVault_eq (found : r.Designates id before v after) :
    r.removeVault id =
      .ok ({ r with vaults := before ++ after }, .vaultRemoved r.address id) := by
  have there : r.vaults.findIdx? (·.id == id) = some before.length := found.vaultIndex?_eq
  rw [removeVault, there]
  simp only [found.split, eraseIdx_append_cons]

lemma updateVault_of_vault?_eq_none (absent : r.vault? id = none) (f : Vault → Vault) :
    r.updateVault id f = r := by
  have missed : r.vaultIndex? id = none :=
    findIdx?_eq_none_iff_forall.2 (vault?_eq_none_iff.1 absent)
  rw [updateVault, missed]

end Branch

/-- Behind the branches in `before`, this branch stands at the place. -/
def Place.Picks (p : Place) (before : List Branch) (r : Branch) : Prop :=
  match p with
  | index i => before.length = i.toNat
  | address a => IsFirst Branch.address a before r

lemma Place.Picks.of_address {p : Place} {before : List Branch} {r r' : Branch}
    (picks : p.Picks before r) (same : r'.address = r.address) : p.Picks before r' := by
  cases p with
  | index i => exact picks
  | address a => exact ⟨same.trans picks.fits, picks.others⟩

namespace Bank

variable {b : Bank} {p : Place} {before after : List Branch} {r : Branch}

/-- The branch at this place stands between the others. -/
structure Designates (b : Bank) (p : Place) (before : List Branch) (r : Branch)
    (after : List Branch) : Prop where
  split : b.branches = before ++ r :: after
  picks : p.Picks before r

lemma branch?_eq_some_iff :
    b.branch? p = some r ↔ ∃ before after, b.Designates p before r after := by
  cases p with
  | address a =>
    rw [branch?, find?_eq_some_iff_isFirst]
    constructor
    · rintro ⟨before, after, split, first⟩
      exact ⟨before, after, split, first⟩
    · rintro ⟨before, after, split, first⟩
      exact ⟨before, after, split, first⟩
  | index i =>
    constructor
    · intro here
      obtain ⟨there, rfl⟩ := List.getElem?_eq_some_iff.1 here
      refine ⟨b.branches.take i.toNat, b.branches.drop (i.toNat + 1), ?_, ?_⟩
      · rw [List.getElem_cons_drop there, List.take_append_drop]
      · exact List.length_take_of_le (Nat.le_of_lt there)
    · rintro ⟨before, after, split, picks⟩
      have place : before.length = i.toNat := picks
      rw [branch?, split, ← place]
      exact getElem?_append_cons before after r

lemma Designates.branchIndex?_eq (found : b.Designates p before r after) :
    b.branchIndex? p = some before.length := by
  cases p with
  | address a =>
    rw [branchIndex?, found.split]
    exact IsFirst.findIdx?_eq found.picks after
  | index i =>
    have place : before.length = i.toNat := found.picks
    have short : i.toNat < b.branchCount := by
      rw [branchCount, found.split, ← place, List.length_append, List.length_cons]
      omega
    rw [branchIndex?, if_pos short, place]

lemma Designates.updateBranch_eq (found : b.Designates p before r after) (f : Branch → Branch) :
    b.updateBranch p f = { b with branches := before ++ f r :: after } := by
  rw [updateBranch, found.branchIndex?_eq]
  simp only [found.split, modify_append_cons]

lemma updateBranch_of_branch?_eq_none (absent : b.branch? p = none) (f : Branch → Branch) :
    b.updateBranch p f = b := by
  have missed : b.branchIndex? p = none := by
    cases p with
    | address a => exact findIdx?_eq_none_iff_forall.2 (find?_eq_none_iff_forall.1 absent)
    | index i => exact if_neg (Nat.not_lt.2 (List.getElem?_eq_none_iff.1 absent))
  rw [updateBranch, missed]

end Bank
end Countinghouse
