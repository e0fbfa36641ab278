import Countinghouse.Proofs.Slots.Map
import Countinghouse.Proofs.Tree.Firsts
import Countinghouse.Proofs.World.Leads
import Mathlib.Data.List.Induction
import Mathlib.Logic.Function.Iterate

/-!
Vaults with the same id. Each removal takes the one that was installed first; when they are all gone
the next removal is denied, and the vaults with other ids have not moved.
-/
namespace Countinghouse

/-- Those that fit can be counted off: behind every smaller number of them stands another. -/
lemma exists_split_of_lt_countP {α : Type} {p : α → Bool} {j : Nat} {l : List α}
    (more : j < l.countP p) :
    ∃ front a back, l = front ++ a :: back ∧ p a ∧ front.countP p = j := by
  induction l generalizing j with
  | nil => cases more
  | cons c l ih =>
    by_cases fits : p c
    · rw [List.countP_cons_of_pos fits] at more
      cases j with
      | zero => exact ⟨[], c, l, rfl, fits, rfl⟩
      | succ j =>
        obtain ⟨front, a, back, rfl, hit, count⟩ := ih (Nat.lt_of_succ_lt_succ more)
        exact ⟨c :: front, a, back, rfl, hit, by rw [List.countP_cons_of_pos fits, count]⟩
    · rw [List.countP_cons_of_neg fits] at more
      obtain ⟨front, a, back, rfl, hit, count⟩ := ih more
      exact ⟨c :: front, a, back, rfl, hit, by rw [List.countP_cons_of_neg fits, count]⟩

namespace Branch

variable {r : Branch} {id : String} {before after : List Vault} {v : Vault}

/-- How many vaults have this id. -/
def namesakes (r : Branch) (id : String) : Nat := r.vaults.countP (·.id == id)

/-- What an attempt to remove a vault leaves. -/
def afterRemoval (r : Branch) (id : String) : Branch :=
  match r.removeVault id with
  | .ok (left, _) => left
  | .error _ => r

/-- What so many attempts to remove a vault leave. -/
def drained (r : Branch) (id : String) (n : Nat) : Branch := (fun r => r.afterRemoval id)^[n] r

lemma drained_succ (r : Branch) (id : String) (n : Nat) :
    r.drained id (n + 1) = (r.afterRemoval id).drained id n :=
  Function.iterate_succ_apply _ n r

lemma drained_succ' (r : Branch) (id : String) (n : Nat) :
    r.drained id (n + 1) = (r.drained id n).afterRemoval id :=
  Function.iterate_succ_apply' _ n r

lemma Designates.afterRemoval_eq (found : r.Designates id before v after) :
    r.afterRemoval id = { r with vaults := before ++ after } := by
  rw [afterRemoval, found.removeVault_eq]

lemma afterRemoval_of_vault?_eq_none (absent : r.vault? id = none) : r.afterRemoval id = r := by
  rw [afterRemoval, removeVault_eq_error_iff.2 ⟨absent, rfl⟩]

@[simp] lemma address_afterRemoval (r : Branch) (id : String) :
    (r.afterRemoval id).address = r.address := by
  cases here : r.vault? id with
  | none => rw [afterRemoval_of_vault?_eq_none here]
  | some v =>
    obtain ⟨before, after, found⟩ := vault?_eq_some_iff.1 here
    rw [found.afterRemoval_eq]

lemma isFirst_filter (front : List Vault) (fits : v.id = id) :
    IsFirst Vault.id id (front.filter (·.id != id)) v where
  fits := fits
  others u member := by simpa using (List.mem_filter.1 member).2

/-- As many attempts as there are namesakes in front take just these out of it. -/
lemma drained_of_append {front back : List Vault} (split : r.vaults = front ++ back) :
    r.drained id (front.countP (·.id == id)) =
      { r with vaults := front.filter (·.id != id) ++ back } := by
  -- From the end of the front, since the removals go from left to right.
  induction front using List.reverseRecOn generalizing back with
  | nil =>
    obtain ⟨address, phoneNumber, vaults⟩ := r
    cases split
    rfl
  | append_singleton front v ih =>
    rw [List.append_assoc, List.singleton_append] at split
    have reached := ih split
    rw [List.countP_append, List.filter_append, List.append_assoc]
    by_cases fits : v.id = id
    · have found : (r.drained id (front.countP (·.id == id))).Designates id
          (front.filter (·.id != id)) v back :=
        ⟨congrArg vaults reached, isFirst_filter front fits⟩
      rw [List.countP_singleton, if_pos (beq_iff_eq.2 fits), drained_succ', found.afterRemoval_eq,
        reached]
      simp [fits]
    · rw [List.countP_singleton, if_neg (by simpa using fits), Nat.add_zero, reached]
      simp [fits]

/-- The namesake behind so many others is the one that is found after as many attempts. -/
lemma designates_drained {front back : List Vault} (split : r.vaults = front ++ v :: back)
    (fits : v.id = id) :
    (r.drained id (front.countP (·.id == id))).Designates id (front.filter (·.id != id)) v back :=
  ⟨congrArg vaults (drained_of_append split), isFirst_filter front fits⟩

lemma countP_lt_namesakes {front back : List Vault} (split : r.vaults = front ++ v :: back)
    (fits : v.id = id) : front.countP (·.id == id) < r.namesakes id := by
  rw [namesakes, split, List.countP_append, List.countP_cons_of_pos (by simpa using fits)]
  omega

lemma drained_succ_of_append {front back : List Vault} (split : r.vaults = front ++ v :: back)
    (fits : v.id = id) :
    r.drained id (front.countP (·.id == id) + 1) =
      { r with vaults := front.filter (·.id != id) ++ back } := by
  rw [drained_succ', (designates_drained split fits).afterRemoval_eq, drained_of_append split]

lemma removeVault_drained {front back : List Vault} (split : r.vaults = front ++ v :: back)
    (fits : v.id = id) :
    (r.drained id (front.countP (·.id == id))).removeVault id =
      .ok ({ r with vaults := front.filter (·.id != id) ++ back }, .vaultRemoved r.address id) := by
  rw [(designates_drained split fits).removeVault_eq, drained_of_append split]

lemma removeVault_drained_of_lt {j : Nat} (more : j < r.namesakes id) :
    (r.drained id j).removeVault id =
      .ok (r.drained id (j + 1), .vaultRemoved r.address id) := by
  obtain ⟨front, v, back, split, fits, rfl⟩ := exists_split_of_lt_countP more
  rw [removeVault_drained split (beq_iff_eq.1 fits),
    drained_succ_of_append split (beq_iff_eq.1 fits)]

/-- What is left when all namesakes are gone. -/
def withoutNamesakes (r : Branch) (id : String) : Branch :=
  { r with vaults := r.vaults.filter (·.id != id) }

lemma vault?_withoutNamesakes (r : Branch) (id : String) :
    (r.withoutNamesakes id).vault? id = none := by
  rw [withoutNamesakes, vault?_eq_none_iff]
  intro v member
  simpa using (List.mem_filter.1 member).2

lemma drained_namesakes_add (r : Branch) (id : String) (n : Nat) :
    r.drained id (r.namesakes id + n) = r.withoutNamesakes id := by
  induction n with
  | zero =>
    rw [namesakes, Nat.add_zero, drained_of_append (List.append_nil r.vaults).symm,
      List.append_nil, withoutNamesakes]
  | succ n ih =>
    rw [← Nat.add_assoc, drained_succ', ih,
      afterRemoval_of_vault?_eq_none (r.vault?_withoutNamesakes id)]

end Branch

/-- How the request to remove a vault of this branch is answered. -/
def Branch.removalEntry (r : Branch) (id : String) : Entry :=
  match r.removeVault id with
  | .ok (left, event) => ⟨.branch left, [event]⟩
  | .error e => ⟨.failed e, []⟩

section

variable {w : World} {s : Spot} {b : Bank} {before after : List Branch} {r : Branch}

lemma Bank.Designates.afterRemoval (found : b.Designates s.place before r after) (id : String) :
    Bank.Designates { b with branches := before ++ r.afterRemoval id :: after } s.place before
      (r.afterRemoval id) after :=
  ⟨rfl, found.picks.of_address (r.address_afterRemoval id)⟩

lemma Step.run_removeVault (here : w.bank s.bank = .ok b)
    (found : b.Designates s.place before r after) (id : String) :
    (Step.branch (.change s (.removeVault id))).run w =
      (r.removalEntry id,
        w.setBank s.bank { b with branches := before ++ r.afterRemoval id :: after }) := by
  have there : b.branch? s.place = some r := Bank.branch?_eq_some_iff.2 ⟨before, after, found⟩
  simp only [run, perform, BranchStep.perform, here, Except.map, there, BranchChange.apply,
    Branch.removalEntry, Branch.afterRemoval]
  cases r.removeVault id with
  | ok removed =>
    simp only [Outcome.logged, found.updateBranch_eq]
  | error e =>
    simp only [Outcome.failure, ← found.split, World.setBank_self here]

/-- Removals asked for one after the other, and the house that they leave. -/
lemma World.run_removals (here : w.bank s.bank = .ok b)
    (found : b.Designates s.place before r after) (id : String) (n : Nat) :
    w.run (List.replicate n (.branch (.change s (.removeVault id)))) =
      ((List.range n).map fun j => (r.drained id j).removalEntry id,
        w.setBank s.bank { b with branches := before ++ r.drained id n :: after }) := by
  -- Each removal puts another bank and another branch in the same place.
  induction n generalizing w b r with
  | zero =>
    rw [Branch.drained, Function.iterate_zero_apply, ← found.split, setBank_self here]
    rfl
  | succ n ih =>
    have next := ih (w.bank_setBank s.bank _) (found.afterRemoval id)
    rw [List.replicate_succ, run, Step.run_removeVault here found id]
    simp only [next, ← Branch.drained_succ, List.range_succ_eq_map, List.map_cons, List.map_map]
    simp only [setBank, Slots.put_put]
    rfl

/-- As many removals as there are namesakes are done and logged, all others are denied. -/
lemma World.run_removals_eq_append (here : w.bank s.bank = .ok b)
    (found : b.Designates s.place before r after) (id : String) (n : Nat) :
    w.run (List.replicate (r.namesakes id + n) (.branch (.change s (.removeVault id)))) =
      ((List.range (r.namesakes id)).map (fun j =>
          ⟨.branch (r.drained id (j + 1)), [.vaultRemoved r.address id]⟩) ++
        List.replicate n ⟨.failed (.vaultNotFound id), []⟩,
      w.setBank s.bank { b with branches := before ++ r.withoutNamesakes id :: after }) := by
  have done : ∀ j ∈ List.range (r.namesakes id), (r.drained id j).removalEntry id =
      ⟨.branch (r.drained id (j + 1)), [.vaultRemoved r.address id]⟩ := by
    intro j member
    rw [Branch.removalEntry, Branch.removeVault_drained_of_lt (List.mem_range.1 member)]
  have denied : ∀ j, (r.drained id (r.namesakes id + j)).removalEntry id =
      ⟨.failed (.vaultNotFound id), []⟩ := by
    intro j
    rw [r.drained_namesakes_add, Branch.removalEntry,
      Branch.removeVault_eq_error_iff.2 ⟨r.vault?_withoutNamesakes id, rfl⟩]
  rw [run_removals here found, r.drained_namesakes_add, List.range_add, List.map_append,
    List.map_congr_left done, List.map_map]
  simp only [Function.comp_def, denied, List.map_const', List.length_range]

end

/-- Vaults with one id go in the order of their installation. The attempt that comes after `j`
others finds and removes the vault that stands behind `j` others with the id, and logs this one
removal; the vaults with other ids do not move. When none is left nothing is found, further attempts
are denied and log nothing, and the branch has just its vaults with other ids. -/
theorem namesakes_removed_in_order (r : Branch) (id : String) :
    (∀ j < r.namesakes id, ∃ front v back, r.vaults = front ++ v :: back ∧ v.id = id ∧
      front.countP (·.id == id) = j) ∧
    (∀ front v back, r.vaults = front ++ v :: back → v.id = id →
      let now := r.drained id (front.countP (·.id == id))
      let others := front.filter (·.id != id)
      front.countP (·.id == id) < r.namesakes id ∧
      now.Designates id others v back ∧ now.vault? id = some v ∧
      (∀ g, now.updateVault id g = { r with vaults := others ++ g v :: back }) ∧
      now.removeVault id =
        .ok ({ r with vaults := others ++ back }, .vaultRemoved r.address id) ∧
      r.drained id (front.countP (·.id == id) + 1) = { r with vaults := others ++ back }) ∧
    (∀ n, r.drained id (r.namesakes id + n) = r.withoutNamesakes id) ∧
    (r.withoutNamesakes id).vault? id = none ∧
    (∀ g, (r.withoutNamesakes id).updateVault id g = r.withoutNamesakes id) ∧
    (∀ n e, (r.drained id n).removeVault id = .error e ↔
      (r.drained id n).vault? id = none ∧ e = .vaultNotFound id) ∧
    ∀ (w : World) (s : Spot) (b : Bank) (before after : List Branch),
      w.bank s.bank = .ok b → b.Designates s.place before r after → ∀ n,
      w.run (List.replicate (r.namesakes id + n) (.branch (.change s (.removeVault id)))) =
        ((List.range (r.namesakes id)).map (fun j =>
            ⟨.branch (r.drained id (j + 1)), [.vaultRemoved r.address id]⟩) ++
          List.replicate n ⟨.failed (.vaultNotFound id), []⟩,
        w.setBank s.bank { b with branches := before ++ r.withoutNamesakes id :: after }) := by
  have gone := r.vault?_withoutNamesakes id
  refine ⟨?_, ?_, r.drained_namesakes_add id, gone, Branch.updateVault_of_vault?_eq_none gone,
    fun n e => Branch.removeVault_eq_error_iff, ?_⟩
  · intro j more
    obtain ⟨front, v, back, split, fits, count⟩ := exists_split_of_lt_countP more
    exact ⟨front, v, back, split, beq_iff_eq.1 fits, count⟩
  · intro front v back split fits now others
    have found := Branch.designates_drained split fits
    refine ⟨Branch.countP_lt_namesakes split fits, found,
      Branch.vault?_eq_some_iff.2 ⟨others, back, found⟩, ?_,
      Branch.removeVault_drained split fits, Branch.drained_succ_of_append split fits⟩
    intro g
    rw [found.updateVault_eq, Branch.drained_of_append split]
  · intro w s b before after here found
    exact World.run_removals_eq_append here found id

/-- Two of three vaults have one id, and three times it is asked to remove a vault with this id. -/
theorem twins_removed_before_denial :
    let a : Vault := ⟨"v", true⟩
    let c : Vault := ⟨"w", false⟩
    let e : Vault := ⟨"v", false⟩
    let r : Branch := ⟨"Main", "1", [a, c, e]⟩
    let b : Bank := ⟨8, "Bank", none, none, [r]⟩
    let w : World := World.empty.setBank "b" b
    r.namesakes "v" = 2 ∧ (r.drained "v" 1).vault? "v" = some e ∧
    (r.drained "v" 1).removeVault "v" = .ok (⟨"Main", "1", [c]⟩, .vaultRemoved "Main" "v") ∧
    w.run (List.replicate 3 (.branch (.change ⟨"b", .address "Main"⟩ (.removeVault "v")))) =
      ([⟨.branch ⟨"Main", "1", [c, e]⟩, [.vaultRemoved "Main" "v"]⟩,
        ⟨.branch ⟨"Main", "1", [c]⟩, [.vaultRemoved "Main" "v"]⟩,
        ⟨.failed (.vaultNotFound "v"), []⟩],
      w.setBank "b" { b with branches := [⟨"Main", "1", [c]⟩] }) := by
  intro a c e r b w
  obtain ⟨-, drains, -, -, -, -, runs⟩ := namesakes_removed_in_order r "v"
  obtain ⟨-, -, found, -, removed, -⟩ := drains [a, c] e [] rfl rfl
  have only : b.Designates (.address "Main") [] r [] := ⟨rfl, rfl, by simp⟩
  refine ⟨rfl, found, removed, ?_⟩
  exact runs w ⟨"b", .address "Main"⟩ b [] [] rfl only 1

end Countinghouse
