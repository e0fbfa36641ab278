import Countinghouse.Proofs.Slots.Totals
import Countinghouse.Proofs.Tree.Requests
import Countinghouse.Proofs.Tree.Tracing
import Mathlib.Data.List.Flatten

/-!
The tree of ownership is strict. Whatever is done, everybody who was born is with the owner that it
was born to or was taken out once, and owners keep what they own in the order of its coming.
-/
namespace Countinghouse

def BranchDeed.takes : BranchDeed → Departure → Prop
  | removeVault id, .vault _ v => v.vault.id = id
  | _, _ => False

def BankDeed.takes : BankDeed → Departure → Prop
  | removeBranch _, .branch _ _ => True
  | inBranch _ d, x => d.takes x
  | _, _ => False

/-- A bank that is founded or cloned takes out the one whose place it takes. -/
def HouseDeed.takes : HouseDeed → Departure → Prop
  | found .., .bank _ => True
  | clone .., .bank _ => True
  | drop _, .bank _ => True
  | inBank _ d, x => d.takes x
  | _, _ => False

lemma MarkedBranch.grows_perform (d : BranchDeed) (r : MarkedBranch) (l : Ledger) :
    l.Grows (r.perform d l).2 d.takes := by
  cases d with
  | installVault id => exact l.grows_enter _ _
  | removeVault id =>
    simp only [perform]
    split
    · rename_i v here
      apply l.grows_record
      simpa [BranchDeed.takes] using List.find?_some here
    · exact l.grows_self _

lemma MarkedBank.grows_perform (d : BankDeed) (b : MarkedBank) (l : Ledger) :
    l.Grows (b.perform d l).2 d.takes := by
  cases d with
  | openBranch address phoneNumber => exact l.grows_enter _ _
  | removeBranch index =>
    simp only [perform]
    split
    · exact l.grows_record trivial
    · exact l.grows_self _
  | inBranch i d =>
    simp only [perform]
    split
    · exact MarkedBranch.grows_perform d _ l
    · exact l.grows_self _
  | amend id name customer teller => exact l.grows_self _
  | overhaul front vault => exact l.grows_self _

lemma MarkedHouse.grows_receive (h : MarkedHouse) (slot : String) (b : Bank)
    {allowed : Departure → Prop} (replaces : ∀ old, allowed (.bank old)) :
    h.ledger.Grows (h.receive slot b).ledger allowed := by
  simp only [receive]
  split
  · exact ⟨List.prefix_append _ _, some _, rfl, fun x only => by cases only; exact replaces _⟩
  · exact h.ledger.grows_enter _ _

lemma MarkedHouse.grows_perform (d : HouseDeed) (h : MarkedHouse) :
    h.ledger.Grows (h.perform d).ledger d.takes := by
  cases d with
  | found slot id name customer teller => exact h.grows_receive slot _ fun _ => trivial
  | clone source slot =>
    simp only [perform]
    split
    · exact h.grows_receive slot _ fun _ => trivial
    · exact h.ledger.grows_self _
  | drop slot =>
    simp only [perform]
    split
    · exact h.ledger.grows_record trivial
    · exact h.ledger.grows_self _
  | inBank slot d =>
    simp only [perform]
    split
    · exact MarkedBank.grows_perform d _ h.ledger
    · exact h.ledger.grows_self _

variable {l : Ledger} {rest : Multiset Birth}

namespace MarkedBranch

variable {r : MarkedBranch}

lemma map_vaults_overhaul {α : Type} {g : MarkedVault → α}
    (same : ∀ v x, g { v with vault := x } = g v)
    (r : MarkedBranch) (front : Branch → String × String) (vault : Nat → Vault → Vault) :
    (r.overhaul front vault).vaults.map g = r.vaults.map g :=
  map_mapIdx_of_eq (fun j v => same v (vault j v.vault)) r.vaults

lemma births_overhaul (r : MarkedBranch) (front : Branch → String × String)
    (vault : Nat → Vault → Vault) : (r.overhaul front vault).births = r.births := by
  have vaults := map_vaults_overhaul (g := MarkedVault.toBirth) (fun _ _ => rfl) r front vault
  exact congrArg (r.toBirth :: ·) vaults

lemma toBirth_perform (d : BranchDeed) (r : MarkedBranch) (l : Ledger) :
    (r.perform d l).1.toBirth = r.toBirth := by
  cases d with
  | installVault id => rfl
  | removeVault id =>
    simp only [perform]
    split <;> rfl

lemma keeps_perform (d : BranchDeed) (orderly : r.Orderly) (kept : l.Keeps (rest + ↑r.births)) :
    (r.perform d l).2.Keeps (rest + ↑(r.perform d l).1.births) := by
  cases d with
  | installVault id =>
    have fresh : [(⟨l.next, some r.mark⟩ : Birth)].map Birth.mark = List.range' l.next 1 := rfl
    have born := kept.enter fresh
    rw [add_assoc, Multiset.coe_add] at born
    simpa [perform, births] using born
  | removeVault id =>
    simp only [perform]
    cases here : r.vaults.find? (·.vault.id == id) with
    | none => exact kept
    | some v =>
      refine Ledger.Keeps.record ?_ (orderly.home v (List.mem_of_find?_eq_some here))
      have taken := (perm_of_find? here).map MarkedVault.toBirth
      rw [List.map_append] at taken
      have split : (↑r.births : Multiset Birth) =
          ↑(r.toBirth :: (r.vaults.eraseP (·.vault.id == id)).map MarkedVault.toBirth) +
            ↑[v.toBirth] :=
        Multiset.coe_eq_coe.2 (taken.cons r.toBirth)
      rwa [split, ← add_assoc] at kept

lemma orderly_perform (d : BranchDeed) (orderly : r.Orderly) (kept : l.Keeps (rest + ↑r.births)) :
    (r.perform d l).1.Orderly := by
  obtain ⟨ascending, home⟩ := orderly
  cases d with
  | installVault id =>
    constructor
    · simp only [perform, List.map_append, List.map_singleton]
      refine List.pairwise_append.2 ⟨ascending, List.pairwise_singleton _ _, ?_⟩
      intro n member m new
      obtain ⟨v, there, rfl⟩ := List.mem_map.1 member
      rw [List.mem_singleton.1 new]
      refine kept.mark_lt_next (Multiset.mem_add.2 (.inr ?_))
      exact List.mem_cons_of_mem _ (List.mem_map_of_mem there)
    · intro v member
      rcases List.mem_append.1 member with old | new
      · exact home v old
      · rw [List.mem_singleton.1 new]
        rfl
  | removeVault id =>
    simp only [perform]
    split
    · constructor
      · exact ascending.sublist (List.eraseP_sublist.map _)
      · exact fun v member => home v (List.mem_of_mem_eraseP member)
    · exact ⟨ascending, home⟩

lemma Orderly.overhaul (orderly : r.Orderly) (front : Branch → String × String)
    (vault : Nat → Vault → Vault) : (r.overhaul front vault).Orderly where
  ascending := by
    rw [map_vaults_overhaul (fun _ _ => rfl)]
    exact orderly.ascending
  home v member := by
    obtain ⟨j, there, rfl⟩ := List.exists_of_mem_mapIdx member
    exact orderly.home r.vaults[j] (List.getElem_mem there)

end MarkedBranch

namespace MarkedBank

variable {b : MarkedBank}

lemma coe_births (b : MarkedBank) :
    (↑b.births : Multiset Birth) = {b.toBirth} + ↑(b.branches.flatMap MarkedBranch.births) := by
  rw [births, ← Multiset.cons_coe, Multiset.singleton_add]

/-- What a branch and all others have between them, besides the bank itself. -/
lemma keeps_branch {i : Nat} {r : MarkedBranch} (here : b.branches[i]? = some r)
    (kept : l.Keeps (rest + ↑b.births)) :
    l.Keeps (rest + {b.toBirth} + ↑((b.branches.eraseIdx i).flatMap MarkedBranch.births) +
      ↑r.births) := by
  rwa [coe_births, coe_flatMap_eraseIdx here, ← add_assoc, ← add_assoc] at kept

lemma map_branches_overhaul {α : Type} {g : MarkedBranch → α}
    (same : ∀ r front vault, g (r.overhaul front vault) = g r)
    (front : Nat → Branch → String × String) (vault : Nat → Nat → Vault → Vault) (b : MarkedBank) :
    (b.branches.mapIdx fun i r => r.overhaul (front i) (vault i)).map g = b.branches.map g :=
  map_mapIdx_of_eq (fun i r => same r (front i) (vault i)) b.branches

lemma keeps_perform (d : BankDeed) (orderly : b.Orderly) (kept : l.Keeps (rest + ↑b.births)) :
    (b.perform d l).2.Keeps (rest + ↑(b.perform d l).1.births) := by
  cases d with
  | amend id name customer teller => exact kept
  | openBranch address phoneNumber =>
    have fresh : [(⟨l.next, some b.mark⟩ : Birth)].map Birth.mark = List.range' l.next 1 := rfl
    have born := kept.enter fresh
    rw [add_assoc, Multiset.coe_add] at born
    simpa [perform, births, MarkedBranch.births, Branch.marked, Branch.bare, markVaults] using born
  | removeBranch index =>
    simp only [perform]
    cases here : b.branches[index.toNat]? with
    | none => exact kept
    | some r =>
      have there := List.mem_of_getElem? here
      refine Ledger.Keeps.record ?_ ⟨orderly.home r there, orderly.branches r there⟩
      rw [coe_births, ← add_assoc]
      exact keeps_branch here kept
  | inBranch i d =>
    simp only [perform]
    cases here : b.branches[i]? with
    | none => exact kept
    | some r =>
      rw [coe_births, coe_flatMap_set here, ← add_assoc, ← add_assoc]
      have there := List.mem_of_getElem? here
      exact r.keeps_perform d (orderly.branches r there) (keeps_branch here kept)
  | overhaul front vault =>
    have branches := map_branches_overhaul MarkedBranch.births_overhaul front vault b
    have same : (b.perform (.overhaul front vault) l).1.births = b.births := by
      simp only [births, perform, List.flatMap_def, branches]
    rw [same]
    exact kept

lemma orderly_perform (d : BankDeed) (orderly : b.Orderly) (kept : l.Keeps (rest + ↑b.births)) :
    (b.perform d l).1.Orderly := by
  obtain ⟨ascending, home, branches⟩ := orderly
  cases d with
  | amend id name customer teller => exact ⟨ascending, home, branches⟩
  | openBranch address phoneNumber =>
    have known : ∀ r ∈ b.branches ++ [(Branch.bare address phoneNumber).marked b.mark l.next],
        r ∈ b.branches ∨ r = (Branch.bare address phoneNumber).marked b.mark l.next := by
      intro r member
      simpa using member
    refine ⟨?_, fun r member => ?_, fun r member => ?_⟩
    · simp only [perform, List.map_append, List.map_singleton]
      refine List.pairwise_append.2 ⟨ascending, List.pairwise_singleton _ _, ?_⟩
      intro n member m new
      obtain ⟨r, there, rfl⟩ := List.mem_map.1 member
      rw [List.mem_singleton.1 new]
      refine kept.mark_lt_next (Multiset.mem_add.2 (.inr ?_))
      exact List.mem_cons_of_mem _
        ((toBirth_sublist_births b.branches).subset (List.mem_map_of_mem there))
    · rcases known r member with old | rfl
      · exact home r old
      · rfl
    · rcases known r member with old | rfl
      · exact branches r old
      · exact (Branch.bare address phoneNumber).orderly_marked b.mark l.next
  | removeBranch index =>
    simp only [perform]
    split
    · refine ⟨?_, fun r member => home r (List.mem_of_mem_eraseIdx member),
        fun r member => branches r (List.mem_of_mem_eraseIdx member)⟩
      exact ascending.sublist ((List.eraseIdx_sublist _ _).map _)
    · exact ⟨ascending, home, branches⟩
  | inBranch i d =>
    simp only [perform]
    cases here : b.branches[i]? with
    | none => exact ⟨ascending, home, branches⟩
    | some r =>
      have there := List.mem_of_getElem? here
      have same := r.toBirth_perform d l
      refine ⟨?_, fun m member => ?_, fun m member => ?_⟩
      · have marks := map_set_of_eq (g := (·.mark)) here (congrArg Birth.mark same)
        simp only [marks]
        exact ascending
      · rcases List.mem_or_eq_of_mem_set member with old | rfl
        · exact home m old
        · exact (congrArg Birth.home same).trans (home r there)
      · rcases List.mem_or_eq_of_mem_set member with old | rfl
        · exact branches m old
        · exact r.orderly_perform d (branches r there) (keeps_branch here kept)
  | overhaul front vault =>
    have known : ∀ m ∈ (b.perform (.overhaul front vault) l).1.branches, ∃ r ∈ b.branches, ∃ i,
        m = r.overhaul (front i) (vault i) := by
      intro m member
      obtain ⟨i, there, rfl⟩ := List.exists_of_mem_mapIdx member
      exact ⟨b.branches[i], List.getElem_mem there, i, rfl⟩
    refine ⟨?_, fun m member => ?_, fun m member => ?_⟩
    · have marks := map_branches_overhaul (g := (·.mark)) (fun _ _ _ => rfl) front vault b
      simp only [perform, marks]
      exact ascending
    · obtain ⟨r, there, i, rfl⟩ := known m member
      exact home r there
    · obtain ⟨r, there, i, rfl⟩ := known m member
      exact (branches r there).overhaul (front i) (vault i)

end MarkedBank

namespace MarkedHouse

def births (h : MarkedHouse) : Multiset Birth := h.banks.total fun b => ↑b.births

structure Strict (h : MarkedHouse) : Prop where
  kept : h.ledger.Keeps h.births
  orderly : ∀ {slot b}, h.banks.find? slot = some b → b.Orderly

lemma strict_empty : empty.Strict where
  kept := ⟨rfl, rfl, fun _ gone => by cases gone⟩
  orderly here := by cases here

namespace Strict

variable {h : MarkedHouse} {slot : String}

lemma receive (strict : h.Strict) (slot : String) (b : Bank) : (h.receive slot b).Strict where
  kept := by
    have born := strict.kept.enter (b.mark_births_marked h.ledger.next)
    have filled := h.banks.total_put (fun b => (↑b.births : Multiset Birth)) slot
      (b.marked h.ledger.next)
    rw [births, add_comm, ← filled] at born
    simp only [MarkedHouse.receive, births]
    cases here : h.banks.find? slot with
    | none =>
      rw [here, Option.elim_none, add_zero] at born
      exact born
    | some old =>
      rw [here, Option.elim_some] at born
      exact born.record (strict.orderly here)
  orderly := by
    intro i c here
    simp only [MarkedHouse.receive, Slots.find?_put] at here
    split at here
    · cases here
      exact b.orderly_marked _
    · exact strict.orderly here

/-- What a bank and all others have between them. -/
lemma keeps_bank (strict : h.Strict) {b : MarkedBank} (here : h.banks.find? slot = some b) :
    h.ledger.Keeps (((h.banks.clear slot).total fun b => ↑b.births) + ↑b.births) := by
  have kept := strict.kept
  rwa [births, Slots.total_of_find? _ here] at kept

lemma drop (strict : h.Strict) {b : MarkedBank} (here : h.banks.find? slot = some b) :
    Strict ⟨h.banks.clear slot, h.ledger.record (.bank b)⟩ where
  kept := (strict.keeps_bank here).record (strict.orderly here)
  orderly := by
    intro i c found
    rw [Slots.find?_clear] at found
    split at found
    · cases found
    · exact strict.orderly found

lemma inBank (strict : h.Strict) {b : MarkedBank} (here : h.banks.find? slot = some b)
    (d : BankDeed) :
    Strict ⟨h.banks.put slot (b.perform d h.ledger).1, (b.perform d h.ledger).2⟩ where
  kept := by
    rw [births, Slots.total_put_eq]
    exact b.keeps_perform d (strict.orderly here) (strict.keeps_bank here)
  orderly := by
    intro i c found
    rw [Slots.find?_put] at found
    split at found
    · cases found
      exact b.orderly_perform d (strict.orderly here) (strict.keeps_bank here)
    · exact strict.orderly found

lemma perform (strict : h.Strict) (d : HouseDeed) : (h.perform d).Strict := by
  cases d with
  | found slot id name customer teller => exact strict.receive slot _
  | clone source slot =>
    simp only [MarkedHouse.perform]
    split
    · exact strict.receive slot _
    · exact strict
  | drop slot =>
    simp only [MarkedHouse.perform]
    split
    · rename_i b here
      exact strict.drop here
    · exact strict
  | inBank slot d =>
    simp only [MarkedHouse.perform]
    split
    · rename_i b here
      exact strict.inBank here d
    · exact strict

lemma performAll (strict : h.Strict) (ds : List HouseDeed) : (h.performAll ds).Strict := by
  induction ds generalizing h with
  | nil => exact strict
  | cons d ds ih => exact ih (strict.perform d)

/-- Everybody who was born is in the house once or left once, and not both. -/
lemma count_births (strict : h.Strict) {x : Birth} (born : x ∈ h.ledger.births) :
    h.births.count x + h.ledger.departed.count x = 1 := by
  rw [← Multiset.count_add, strict.kept.balanced, Multiset.coe_count]
  refine List.count_eq_one_of_mem ?_ born
  apply List.Nodup.of_map Birth.mark
  rw [strict.kept.numbered]
  exact List.nodup_range

/-- No mark is borne twice. -/
lemma nodup_marks (strict : h.Strict) :
    ((h.banks.values.flatMap MarkedBank.births).map Birth.mark).Nodup := by
  have here : h.births = ↑(h.banks.values.flatMap MarkedBank.births) := Slots.total_coe _ _
  have among : h.births ≤ ↑h.ledger.births := by
    rw [← strict.kept.balanced]
    exact Multiset.le_add_right ..
  have marks := Multiset.map_le_map (f := Birth.mark) among
  rw [here, Multiset.map_coe, Multiset.map_coe, strict.kept.numbered] at marks
  exact Multiset.coe_nodup.1 (Multiset.nodup_of_le marks List.nodup_range)

end Strict

/-- All branches of the house. -/
def branches (h : MarkedHouse) : List MarkedBranch := h.banks.values.flatMap MarkedBank.branches

def vaults (h : MarkedHouse) : List MarkedVault := h.branches.flatMap MarkedBranch.vaults

lemma nodup_mark_branches {h : MarkedHouse} (strict : h.Strict) :
    (h.branches.map (·.mark)).Nodup := by
  have within : List.Sublist (h.branches.map MarkedBranch.toBirth)
      (h.banks.values.flatMap MarkedBank.births) := by
    rw [branches, List.map_flatMap]
    apply List.Sublist.flatMap_right
    intro b _
    exact (toBirth_sublist_births b.branches).cons _
  have marks := within.map Birth.mark
  rw [List.map_map] at marks
  exact strict.nodup_marks.sublist marks

lemma nodup_mark_vaults {h : MarkedHouse} (strict : h.Strict) :
    (h.vaults.map (·.mark)).Nodup := by
  have within : List.Sublist (h.vaults.map MarkedVault.toBirth)
      (h.banks.values.flatMap MarkedBank.births) := by
    rw [vaults, branches, List.flatMap_assoc, List.map_flatMap]
    apply List.Sublist.flatMap_right
    intro b _
    rw [List.map_flatMap]
    exact (List.Sublist.flatMap_right _ fun r _ => List.sublist_cons_self _ _).cons _
  have marks := within.map Birth.mark
  rw [List.map_map] at marks
  exact strict.nodup_marks.sublist marks

end MarkedHouse

/-- Whatever is done to banks, by requests or otherwise, in the end each vault is in the branch and
each branch in the bank that it was born to, in the order of their births; everybody who was born is
there once, or was taken out once by a deed that does so. The marks are no part of the banks: they
only show who is who. -/
theorem ownership_tree_strict (ds : List HouseDeed) :
    let h := MarkedHouse.empty.performAll ds
    let done := HouseDeed.performAll .empty ds
    h.plain = done.1 ∧ h.ledger.reports = removals done.2 ∧
    (h.branches.map (·.mark)).Nodup ∧ (h.vaults.map (·.mark)).Nodup ∧
    (∀ slot b, h.banks.find? slot = some b → b.Orderly) ∧
    h.ledger.births.map Birth.mark = List.range h.ledger.next ∧
    (∀ x ∈ h.ledger.births, h.births.count x + h.ledger.departed.count x = 1) ∧
    (∀ d ∈ h.ledger.gone, d.Orderly) ∧
    (∀ d, h.ledger.Grows (h.perform d).ledger d.takes) ∧
    ∀ steps : List Step, HouseDeed.performAll .empty (World.empty.houseDeeds steps) =
      ((World.empty.run steps).2.banks, ofBanks ((World.empty.run steps).1.flatMap Entry.log)) := by
  intro h done
  have strict : h.Strict := MarkedHouse.strict_empty.performAll ds
  obtain ⟨plain, reports⟩ := MarkedHouse.empty.plain_performAll ds
  exact ⟨plain, reports, MarkedHouse.nodup_mark_branches strict,
    MarkedHouse.nodup_mark_vaults strict, fun slot b here => strict.orderly here,
    strict.kept.numbered, fun x born => strict.count_births born, strict.kept.left,
    fun d => h.grows_perform d, World.empty.performAll_houseDeeds⟩

/-- Two branches at one address, two vaults renamed to one id, a clone, and removals from both
banks. -/
theorem cloned_bank_stays_strict :
    let ds : List HouseDeed :=
      [.found "a" 1 "A" none none, .inBank "a" (.openBranch "x" "1"),
        .inBank "a" (.openBranch "x" "2"), .inBank "a" (.inBranch 0 (.installVault "v")),
        .inBank "a" (.inBranch 0 (.installVault "w")),
        .inBank "a" (.overhaul (fun _ r => ("y", r.phoneNumber)) fun _ _ v => v.setId "v"),
        .clone "a" "b", .inBank "a" (.inBranch 0 (.removeVault "v")),
        .inBank "b" (.removeBranch 0)]
    let h := MarkedHouse.empty.performAll ds
    h.branches.map (·.mark) = [1, 2, 9] ∧ h.vaults.map (·.mark) = [4] ∧
      h.ledger.reports = [.vaultRemoved "y" "v", .branchRemoved "A" "y" 2] ∧
      (∃ b, h.banks.find? "a" = some b ∧ b.Orderly) ∧
      ∀ x ∈ h.ledger.births, h.births.count x + h.ledger.departed.count x = 1 := by
  intro ds h
  obtain ⟨-, reports, -, -, orderly, -, once, -⟩ := ownership_tree_strict ds
  have removed : removals (HouseDeed.performAll .empty ds).2 =
      [.vaultRemoved "y" "v", .branchRemoved "A" "y" 2] := by decide
  exact ⟨by decide, by decide, reports.trans removed, ⟨_, rfl, orderly "a" _ rfl⟩, once⟩

end Countinghouse
