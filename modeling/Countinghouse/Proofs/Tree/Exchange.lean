import Countinghouse.Proofs.Tree.Firsts
import Mathlib.Data.List.Basic

/-!
The order of changes. On a branch, what is tried under different ids can be tried in either order;
under one id a removal and an installation can change places only where the removal does not reach
the vault that is installed. In a bank the branches behind a removed one move up, so that removals
which change places have to follow the move, unless they go from the last position to the first.
-/
namespace Countinghouse

namespace Branch

/-- What is tried on a branch is done and reported, or denied. -/
abbrev Attempt := Branch → Except Failure (Branch × Event)

def removal (id : String) : Attempt := fun r => r.removeVault id

def installation (id : String) : Attempt := fun r => .ok (r.installVault id)

namespace Attempt

/-- What is denied leaves the branch as it was. -/
def leaves (t : Attempt) (r : Branch) : Branch :=
  match t r with
  | .ok (left, _) => left
  | .error _ => r

def outcome (t : Attempt) (r : Branch) : Except Failure Event := (t r).map (·.2)

/-- Either order leaves the same branch, and each of the two comes out as it does in the other
order. -/
structure Exchanges (s t : Attempt) (r : Branch) : Prop where
  leaves : t.leaves (s.leaves r) = s.leaves (t.leaves r)
  first : s.outcome r = s.outcome (t.leaves r)
  second : t.outcome (s.leaves r) = t.outcome r

end Attempt

lemma leaves_removal (id : String) (r : Branch) :
    (removal id).leaves r = { r with vaults := r.vaults.eraseP (·.id == id) } := by
  rw [Attempt.leaves, removal, removeVault, List.eraseP_eq_eraseIdx]
  cases r.vaults.findIdx? (·.id == id) <;> rfl

lemma leaves_installation (id : String) (r : Branch) :
    (installation id).leaves r = { r with vaults := r.vaults ++ [⟨id, false⟩] } := rfl

lemma outcome_removal (id : String) (r : Branch) :
    (removal id).outcome r =
      if ∃ v ∈ r.vaults, v.id = id then .ok (.vaultRemoved r.address id)
      else .error (.vaultNotFound id) := by
  rw [Attempt.outcome, removal]
  cases here : r.vault? id with
  | none =>
    have absent : ¬ ∃ v ∈ r.vaults, v.id = id := by
      rintro ⟨v, member, fits⟩
      exact vault?_eq_none_iff.1 here v member fits
    rw [if_neg absent, removeVault_eq_error_iff.2 ⟨here, rfl⟩]
    rfl
  | some v =>
    obtain ⟨before, after, found⟩ := vault?_eq_some_iff.1 here
    have held : ∃ v ∈ r.vaults, v.id = id := by
      refine ⟨v, ?_, found.first.fits⟩
      rw [found.split]
      exact List.mem_append_right before List.mem_cons_self
    rw [if_pos held, found.removeVault_eq]
    rfl

/-- A removal takes no vault with another id. -/
lemma exists_mem_eraseP_iff {a b : String} (other : a ≠ b) (vaults : List Vault) :
    (∃ v ∈ vaults.eraseP (·.id == b), v.id = a) ↔ ∃ v ∈ vaults, v.id = a := by
  apply exists_congr
  intro v
  apply and_congr_left
  rintro rfl
  exact List.mem_eraseP_of_neg (by simpa using other)

lemma exchanges_removals {a b : String} (other : a ≠ b) (r : Branch) :
    (removal a).Exchanges (removal b) r where
  leaves := by
    have apart : ∀ v ∈ r.vaults, ¬ (v.id == a) = true ∨ ¬ (v.id == b) = true := by
      intro v _
      by_cases fits : v.id = a
      · exact .inr (by simpa [fits] using other)
      · exact .inl (by simpa using fits)
    simp only [leaves_removal, List.eraseP_comm apart]
  first := by
    rw [leaves_removal, outcome_removal, outcome_removal]
    simp only [exists_mem_eraseP_iff other]
  second := by
    rw [leaves_removal, outcome_removal, outcome_removal]
    simp only [exists_mem_eraseP_iff other.symm]

/-- A removal that finds a vault with its id, or is after another id, does not reach the vault
behind. -/
lemma eraseP_append_singleton {a b : String} {vaults : List Vault}
    (free : (∃ v ∈ vaults, v.id = a) ∨ a ≠ b) :
    (vaults ++ [Vault.mk b false]).eraseP (·.id == a) =
      vaults.eraseP (·.id == a) ++ [Vault.mk b false] := by
  by_cases held : ∃ v ∈ vaults, v.id = a
  · obtain ⟨v, member, fits⟩ := held
    exact List.eraseP_append_left (p := fun v => v.id == a) (beq_iff_eq.2 fits) _ member
  · have absent : ∀ v ∈ vaults, ¬ (v.id == a) = true := by
      intro v member fits
      exact held ⟨v, member, beq_iff_eq.1 fits⟩
    have other : b ≠ a := (free.resolve_left held).symm
    rw [List.eraseP_append_right _ absent, List.eraseP_of_forall_not absent,
      List.eraseP_of_forall_not (by simpa using other)]

lemma exchanges_removal_installation_iff (a b : String) (r : Branch) :
    (removal a).Exchanges (installation b) r ↔ (∃ v ∈ r.vaults, v.id = a) ∨ a ≠ b := by
  constructor
  · intro exchange
    by_contra neither
    obtain ⟨absent, same⟩ := not_or.1 neither
    obtain rfl : a = b := not_not.1 same
    -- Alone the removal is denied; behind the installation it takes what was installed.
    have alike := exchange.first
    rw [leaves_installation, outcome_removal, outcome_removal, if_neg absent, if_pos (by simp)]
      at alike
    cases alike
  · intro free
    have reached : (∃ v ∈ r.vaults ++ [⟨b, false⟩], v.id = a) ↔ ∃ v ∈ r.vaults, v.id = a := by
      constructor
      · rintro ⟨v, member, fits⟩
        rcases List.mem_append.1 member with old | new
        · exact ⟨v, old, fits⟩
        · obtain rfl := List.mem_singleton.1 new
          exact free.resolve_right (not_not.2 fits.symm)
      · rintro ⟨v, member, fits⟩
        exact ⟨v, List.mem_append_left _ member, fits⟩
    refine ⟨?_, ?_, ?_⟩
    · simp only [leaves_installation, leaves_removal, eraseP_append_singleton free]
    · rw [leaves_installation, outcome_removal, outcome_removal]
      simp only [reached]
    · rw [leaves_removal]
      rfl

end Branch

section

variable {α : Type}

/-- The elements whose positions are not listed. -/
def unlisted (is : List Nat) (l : List α) : List α := (l.zipIdx.filter (·.2 ∉ is)).map (·.1)

lemma filter_zipIdx_of_lt {is : List Nat} {k : Nat} (low : ∀ i ∈ is, i < k) (l : List α) :
    (l.zipIdx k).filter (·.2 ∉ is) = l.zipIdx k := by
  apply List.filter_eq_self.2
  intro p member
  have high := List.le_snd_of_mem_zipIdx member
  have unlisted : p.2 ∉ is := fun listed => Nat.not_lt.2 high (low p.2 listed)
  exact decide_eq_true unlisted

/-- What stands behind a removed element moves up, but nothing listed stands there. -/
lemma unlisted_eraseIdx {is : List Nat} {i : Nat} (later : ∀ j ∈ is, j < i) {l : List α}
    (there : i < l.length) : unlisted is (l.eraseIdx i) = unlisted (i :: is) l := by
  have split : l = l.take i ++ l[i] :: l.drop (i + 1) := by
    rw [List.getElem_cons_drop there, List.take_append_drop]
  have long : (l.take i).length = i := List.length_take_of_le (Nat.le_of_lt there)
  generalize l.take i = front at split long
  generalize l.drop (i + 1) = back at split
  generalize l[i] = a at split
  subst split long
  have listed : ∀ j ∈ front.length :: is, j < front.length + 1 := by
    intro j member
    rcases List.mem_cons.1 member with rfl | member
    · exact Nat.lt_succ_self _
    · exact Nat.lt_succ_of_lt (later j member)
  have same : ∀ p ∈ front.zipIdx, decide (p.2 ∉ front.length :: is) = decide (p.2 ∉ is) := by
    intro p member
    have low := List.snd_lt_of_mem_zipIdx member
    have other : p.2 ≠ front.length := Nat.ne_of_lt low
    simp [other]
  rw [eraseIdx_append_cons, unlisted, unlisted, List.zipIdx_append, List.zipIdx_append,
    List.zipIdx_cons, Nat.zero_add, List.filter_append, List.filter_append,
    List.filter_cons_of_neg (by simp), filter_zipIdx_of_lt later, filter_zipIdx_of_lt listed,
    List.filter_congr same]
  simp only [List.map_append, List.zipIdx_map_fst]

lemma eraseIdx_eraseIdx {i j : Nat} (before : i ≤ j) (l : List α) :
    (l.eraseIdx i).eraseIdx j = (l.eraseIdx (j + 1)).eraseIdx i := by
  apply List.ext_getElem?
  intro k
  simp only [List.getElem?_eraseIdx]
  split_ifs <;> first | rfl | omega

end

namespace Bank

/-- Branches are removed one after the other, until one of the removals is denied. -/
def removeBranches (b : Bank) : List UInt64 → Except Failure (Bank × List Event)
  | [] => .ok (b, [])
  | i :: is =>
    match b.removeBranch i with
    | .error e => .error e
    | .ok (left, event) => (left.removeBranches is).map fun p => (p.1, event :: p.2)

/-- What is reported when the branch at this position is removed. -/
def removalAt? (b : Bank) (i : UInt64) : Option Event :=
  b.branches[i.toNat]?.map fun r => .branchRemoved b.name r.address r.vaultCount

variable {b : Bank} {i j : UInt64}

lemma removeBranch_of_lt (there : i.toNat < b.branchCount) :
    ∃ event, b.removalAt? i = some event ∧
      b.removeBranch i = .ok ({ b with branches := b.branches.eraseIdx i.toNat }, event) := by
  have here : b.branches[i.toNat]? = some b.branches[i.toNat] := List.getElem?_eq_getElem there
  refine ⟨.branchRemoved b.name b.branches[i.toNat].address b.branches[i.toNat].vaultCount, ?_, ?_⟩
  · rw [removalAt?, here, Option.map_some]
  · rw [removeBranch, here]

lemma removeBranches_cons (there : i.toNat < b.branchCount) (is : List UInt64) :
    b.removeBranches (i :: is) =
      (Bank.removeBranches { b with branches := b.branches.eraseIdx i.toNat } is).map fun p =>
        (p.1, (b.removalAt? i).toList ++ p.2) := by
  obtain ⟨event, told, removed⟩ := removeBranch_of_lt there
  rw [removeBranches, removed, told]
  rfl

lemma branchCount_eraseIdx (there : i.toNat < b.branchCount) :
    Bank.branchCount { b with branches := b.branches.eraseIdx i.toNat } = b.branchCount - 1 :=
  List.length_eraseIdx_of_lt there

/-- Branches in front of a removed one stay at their positions. -/
lemma removalAt?_eraseIdx_of_lt (front : j < i) :
    Bank.removalAt? { b with branches := b.branches.eraseIdx i.toNat } j = b.removalAt? j := by
  have before : j.toNat < i.toNat := front
  rw [removalAt?, removalAt?, List.getElem?_eraseIdx, if_pos before]

/-- Branches behind a removed one move up. -/
lemma removalAt?_eraseIdx_of_le {next : UInt64} (behind : i ≤ j)
    (follows : next.toNat = j.toNat + 1) :
    Bank.removalAt? { b with branches := b.branches.eraseIdx i.toNat } j = b.removalAt? next := by
  have after : ¬ j.toNat < i.toNat := Nat.not_lt.2 behind
  rw [removalAt?, removalAt?, List.getElem?_eraseIdx, if_neg after, follows]

/-- From the last position to the first, each removal takes the branch that stood there at first. -/
lemma removeBranches_of_descending {is : List UInt64} (descending : is.Pairwise (· > ·))
    (there : ∀ i ∈ is, i.toNat < b.branchCount) :
    b.removeBranches is =
      .ok ({ b with branches := unlisted (is.map UInt64.toNat) b.branches },
        is.filterMap b.removalAt?) := by
  induction is generalizing b with
  | nil =>
    have all : unlisted [] b.branches = b.branches := by
      rw [unlisted, filter_zipIdx_of_lt (by simp), List.zipIdx_map_fst]
    rw [removeBranches, List.map_nil, all, List.filterMap_nil]
  | cons i is ih =>
    obtain ⟨later, descending⟩ := List.pairwise_cons.1 descending
    have first := there i List.mem_cons_self
    have front : ∀ j ∈ is.map UInt64.toNat, j < i.toNat := by
      intro j member
      obtain ⟨k, listed, rfl⟩ := List.mem_map.1 member
      exact later k listed
    have stay : ∀ j ∈ is,
        j.toNat < Bank.branchCount { b with branches := b.branches.eraseIdx i.toNat } := by
      intro j member
      have before : j.toNat < i.toNat := later j member
      rw [branchCount_eraseIdx first]
      omega
    have told : is.filterMap (Bank.removalAt? { b with branches := b.branches.eraseIdx i.toNat }) =
        is.filterMap b.removalAt? :=
      List.filterMap_congr fun j member => removalAt?_eraseIdx_of_lt (later j member)
    rw [removeBranches_cons first, ih descending stay, told, List.map_cons,
      unlisted_eraseIdx front first]
    obtain ⟨event, is_event, -⟩ := removeBranch_of_lt first
    rw [List.filterMap_cons, is_event]
    rfl

lemma removeBranches_pair (first : i.toNat < b.branchCount) (second : j.toNat + 1 < b.branchCount) :
    b.removeBranches [i, j] =
      .ok ({ b with branches := (b.branches.eraseIdx i.toNat).eraseIdx j.toNat },
        (b.removalAt? i).toList ++
          (Bank.removalAt? { b with branches := b.branches.eraseIdx i.toNat } j).toList) := by
  have there : j.toNat < Bank.branchCount { b with branches := b.branches.eraseIdx i.toNat } := by
    rw [branchCount_eraseIdx first]
    omega
  rw [removeBranches_cons first, removeBranches_cons there, removeBranches]
  simp only [Except.map, List.append_nil]

end Bank

/-- Two removals of vaults can be done in either order if they are after different ids. A removal
and an installation can be done in either order just if a vault with the id of the removal is there
already, or the installation is under another id. Two branches can be removed in either order, if
the removal of the one in front is followed by the other's position less one. Listed from the last
to the first, all branches of a list are removed, and those that are not listed stay as they were in
their order. -/
theorem changes_exchanged :
    (∀ (r : Branch) (a b : String), a ≠ b →
      (Branch.removal a).Exchanges (Branch.removal b) r) ∧
    (∀ (r : Branch) (a b : String),
      (Branch.removal a).Exchanges (Branch.installation b) r ↔
        (∃ v ∈ r.vaults, v.id = a) ∨ a ≠ b) ∧
    (∀ (b : Bank) (i j next : UInt64), i ≤ j → next.toNat = j.toNat + 1 →
      next.toNat < b.branchCount →
      ∃ left e e', b.removeBranches [i, j] = .ok (left, [e, e']) ∧
        b.removeBranches [next, i] = .ok (left, [e', e])) ∧
    ∀ (b : Bank) (is : List UInt64), is.Pairwise (· > ·) → (∀ i ∈ is, i.toNat < b.branchCount) →
      b.removeBranches is =
        .ok ({ b with branches := unlisted (is.map UInt64.toNat) b.branches },
          is.filterMap b.removalAt?) := by
  refine ⟨fun r a b other => Branch.exchanges_removals other r,
    fun r a b => Branch.exchanges_removal_installation_iff a b r, ?_,
    fun b is descending there => Bank.removeBranches_of_descending descending there⟩
  intro b i j next behind follows there
  have order : i.toNat ≤ j.toNat := behind
  have first : i.toNat < b.branchCount := by omega
  obtain ⟨e, told, -⟩ := Bank.removeBranch_of_lt first
  obtain ⟨e', told', -⟩ := Bank.removeBranch_of_lt there
  have front : i < next := UInt64.lt_iff_toNat_lt.2 (by omega)
  refine ⟨{ b with branches := (b.branches.eraseIdx i.toNat).eraseIdx j.toNat }, e, e', ?_, ?_⟩
  · rw [Bank.removeBranches_pair first (by omega), Bank.removalAt?_eraseIdx_of_le behind follows,
      told, told']
    rfl
  · rw [Bank.removeBranches_pair there (by omega), Bank.removalAt?_eraseIdx_of_lt front, told,
      told', eraseIdx_eraseIdx order, follows]
    rfl

/-- Of four branches the second and the fourth are removed; a removal meets a vault with its id. -/
theorem second_and_fourth_branch_removed :
    let r : Branch := ⟨"A", "1", [⟨"v", true⟩, ⟨"w", false⟩, ⟨"v", false⟩]⟩
    let b : Bank := ⟨8, "Bank", none, none, [r, .bare "B" "2", .bare "A" "3", .bare "D" "4"]⟩
    (Branch.removal "v").Exchanges (Branch.removal "w") r ∧
    (Branch.removal "v").Exchanges (Branch.installation "v") r ∧
    ¬ (Branch.removal "u").Exchanges (Branch.installation "u") r ∧
    (∃ left e e', b.removeBranches [1, 2] = .ok (left, [e, e']) ∧
      b.removeBranches [3, 1] = .ok (left, [e', e])) ∧
    b.removeBranches [3, 1] =
      .ok ({ b with branches := [r, .bare "A" "3"] },
        [.branchRemoved "Bank" "D" 0, .branchRemoved "Bank" "B" 0]) := by
  intro r b
  obtain ⟨removals, installed, shifted, descending⟩ := changes_exchanged
  refine ⟨removals r "v" "w" (by decide), (installed r "v" "v").2 (.inl (by decide)), ?_,
    shifted b 1 2 3 (by decide) (by decide) (by decide),
    descending b [3, 1] (by decide) (by simp [b, Bank.branchCount])⟩
  intro exchange
  exact absurd ((installed r "u" "u").1 exchange) (by decide)

end Countinghouse
