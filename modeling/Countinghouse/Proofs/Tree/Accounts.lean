import Countinghouse.Proofs.Tree.Ownership
import Countinghouse.Proofs.Tree.Reports

/-!
The log accounts for the tree. At every moment the branches and the vaults of all banks are as many
as the messages and fields of the log say, but for the banks that were copied and dropped.
-/
namespace Countinghouse

/-- How many events of a log bear this message. -/
def timesTold (message : String) (log : List Event) : Nat := log.countP (·.message = message)

/-- What the field of this name holds, if it holds a count. -/
def Event.countIn (field : String) (e : Event) : Nat :=
  match e.fields.lookup field with
  | some (.count n) => n
  | _ => 0

/-- The counts in this field of all events that bear this message, added up. -/
def sumTold (message field : String) (log : List Event) : Nat :=
  ((log.filter (·.message = message)).map (Event.countIn field)).sum

def totalBranches (bs : List Bank) : Nat := (bs.map Bank.branchCount).sum

def totalVaults (bs : List Bank) : Nat := (bs.map Bank.vaultCount).sum

/-- The banks that live have what the log says was new, less what it says is gone, with what copies
brought and without what was dropped. -/
structure AccountedFor (live : List Bank) (log : List Event) (copied dropped : List Bank) :
    Prop where
  vaults : (totalVaults live : ℤ) =
    timesTold "vault installed" log - timesTold "vault removed" log -
      sumTold "branch removed" "vaults" log + totalVaults copied - totalVaults dropped
  branches : (totalBranches live : ℤ) =
    timesTold "branch opened" log - timesTold "branch removed" log +
      totalBranches copied - totalBranches dropped

lemma extents_eq (bs : List Bank) : extents bs = (totalBranches bs, totalVaults bs) := by
  induction bs with
  | nil => rfl
  | cons b bs ih =>
    rw [extents, List.map_cons, List.sum_cons, ← extents, ih]
    rfl

lemma timesTold_cons (message : String) (e : Event) (log : List Event) :
    timesTold message (e :: log) =
      timesTold message log + if e.message = message then 1 else 0 := by
  simp only [timesTold, List.countP_cons, decide_eq_true_eq]

lemma sumTold_cons (message field : String) (e : Event) (log : List Event) :
    sumTold message field (e :: log) =
      sumTold message field log + if e.message = message then e.countIn field else 0 := by
  simp only [sumTold, List.filter_cons, decide_eq_true_eq]
  split
  · rw [List.map_cons, List.sum_cons, Nat.add_comm]
  · rfl

lemma gains_eq (log : List Event) :
    gains log = (timesTold "branch opened" log, timesTold "vault installed" log) := by
  induction log with
  | nil => rfl
  | cons e log ih =>
    rw [gains_cons, ih, timesTold_cons, timesTold_cons, add_comm]
    cases e with
    | accountClosed kind identifier => cases kind <;> rfl
    | _ => rfl

lemma losses_eq (log : List Event) :
    losses log = (timesTold "branch removed" log,
      timesTold "vault removed" log + sumTold "branch removed" "vaults" log) := by
  induction log with
  | nil => rfl
  | cons e log ih =>
    rw [losses_cons, ih, timesTold_cons, timesTold_cons, sumTold_cons, add_comm]
    cases e with
    | branchRemoved bank address vaults => exact Prod.ext rfl (Nat.add_assoc ..)
    | vaultRemoved branch vault => exact Prod.ext rfl (Nat.add_right_comm ..)
    | accountClosed kind identifier => cases kind <;> rfl
    | _ => rfl

/-- Reports on accounts add nothing. -/
lemma sum_map_ofBanks {f : Event → Nat × Nat} (none : ∀ e, e.level ≠ .debug → f e = 0)
    (log : List Event) : ((ofBanks log).map f).sum = (log.map f).sum := by
  induction log with
  | nil => rfl
  | cons e log ih =>
    simp only [ofBanks, List.filter_cons, decide_eq_true_eq]
    split
    · rw [List.map_cons, List.map_cons, List.sum_cons, List.sum_cons, ← ih, ofBanks]
    · rename_i other
      rw [List.map_cons, List.sum_cons, none e other, zero_add, ← ih, ofBanks]

lemma Event.gain_loss_of_level {e : Event} (other : e.level ≠ .debug) :
    e.gain = 0 ∧ e.loss = 0 := by
  cases e with
  | accountClosed kind identifier => exact ⟨rfl, rfl⟩
  | _ => exact absurd rfl other

lemma gains_ofBanks (log : List Event) : gains (ofBanks log) = gains log :=
  sum_map_ofBanks (fun _ other => (Event.gain_loss_of_level other).1) log

lemma losses_ofBanks (log : List Event) : losses (ofBanks log) = losses log :=
  sum_map_ofBanks (fun _ other => (Event.gain_loss_of_level other).2) log

namespace Balanced

variable {before after : Slots Bank} {log : List Event} {copied dropped : List Bank}

lemma of_ofBanks (balanced : Balanced before (ofBanks log) copied dropped after) :
    Balanced before log copied dropped after := by
  rwa [Balanced, gains_ofBanks, losses_ofBanks] at balanced

/-- A house that was empty is accounted for. -/
lemma accountedFor (balanced : Balanced .empty log copied dropped after) :
    AccountedFor after.values log copied dropped := by
  rw [Balanced, Slots.total_empty, zero_add, ← extents_values, gains_eq, losses_eq, extents_eq,
    extents_eq, extents_eq] at balanced
  have branches := congrArg Prod.fst balanced
  have vaults := congrArg Prod.snd balanced
  simp only [Prod.fst_add, Prod.snd_add] at branches vaults
  -- only here, where all is known to be there, is anything taken away
  constructor <;> omega

/-- Banks that go with their house are dropped. -/
lemma of_all_dropped (banks : Slots Bank) : Balanced banks [] [] banks.values .empty := by
  rw [Balanced, extents_values, Slots.total_empty]
  exact (zero_add _).trans rfl

end Balanced

lemma World.ofBanks_discardEach (w : World) (as : List Account) :
    ofBanks (w.discardEach as).2 = [] := by
  induction as generalizing w with
  | nil => rfl
  | cons a as ih =>
    have closed : ofBanks (w.discardAccount a).2 = [] :=
      ofBanks_eq_nil fun e member => Visit.level_of_mem_close member
    simp only [discardEach, ofBanks_append, closed, ih, List.append_nil]

lemma World.ofBanks_closeDown (w : World) : ofBanks w.closeDown.2 = [] :=
  ofBanks_discardEach _ _

lemma World.balanced_transcript (steps : List Step) :
    Balanced .empty (ofBanks ((transcript steps).flatMap Entry.log)) (World.empty.copies steps)
      (World.empty.drops steps ++ (World.empty.run steps).2.banks.values) .empty := by
  have balanced := (World.empty.balanced_run steps).trans (.of_all_dropped _)
  simp only [transcript, List.flatMap_append, List.flatMap_singleton, ofBanks_append,
    ofBanks_closeDown]
  rwa [List.append_nil (World.empty.copies steps)] at balanced

lemma Branch.occupiedCount_add_length_available (r : Branch) :
    r.occupiedCount + r.available.length = r.vaultCount := by
  rw [occupiedCount, available, vaultCount, ← List.countP_eq_length_filter]
  simpa using (List.length_eq_countP_add_countP (·.occupied) (l := r.vaults)).symm

/-- Occupied and available vaults are all there are, and the available ones are those that are not
occupied, in the order of their births. -/
structure MarkedBranch.Counted (r : MarkedBranch) : Prop where
  all : r.plain.occupiedCount + r.plain.available.length = r.plain.vaultCount
  available : ∃ free : List MarkedVault, r.plain.available = free.map MarkedVault.vault ∧
    (free.map (·.mark)).Pairwise (· < ·) ∧
    ∀ v, v ∈ free ↔ v ∈ r.vaults ∧ v.vault.occupied = false

lemma MarkedBranch.Orderly.counted {r : MarkedBranch} (orderly : r.Orderly) : r.Counted where
  all := r.plain.occupiedCount_add_length_available
  available := by
    refine ⟨r.vaults.filter (!·.vault.occupied), ?_, ?_, fun v => ?_⟩
    · exact List.filter_map
    · exact orderly.ascending.sublist (List.filter_sublist.map _)
    · simp

/-- What a deed in a bank logs. -/
structure BankDeed.Truthful (d : BankDeed) (b : Bank) : Prop where
  change : b.Change (d.perform b).2 (d.perform b).1.shape
  once : (d.perform b).2.length ≤ 1
  silent : (d.perform b).2 = [] ↔ (d.perform b).1.shape = b.shape

lemma BankDeed.truthful (d : BankDeed) (b : Bank) : d.Truthful b :=
  have change := b.change_perform d
  ⟨change, change.length_le_one, change.silent_iff⟩

/-- What a request logs about banks, and the branches and vaults that are told of. -/
structure Step.Truthful (s : Step) (w : World) : Prop where
  told : ofBanks (s.run w).1.log = s.reports w
  silent : s.Fails w → ofBanks (s.run w).1.log = [] ∧ (s.run w).2.banks = w.banks
  removed : ∀ bank address vaults, .branchRemoved bank address vaults ∈ (s.run w).1.log →
    ∃ slot index b r, s = .bank (.removeBranch slot index) ∧ w.banks.find? slot = some b ∧
      b.branches[index.toNat]? = some r ∧ bank = b.name ∧ address = r.address ∧
      vaults = r.vaultCount ∧ (s.run w).2.banks =
        w.banks.put slot { b with branches := b.branches.eraseIdx index.toNat }

lemma Step.truthful (s : Step) (w : World) : s.Truthful w where
  told := s.ofBanks_run w
  silent fails := fails.silent
  removed _ _ _ member := branchRemoved_of_mem member

/-- At every moment, the branches and the vaults of all banks are as many as the log says, when the
banks copied are added and the banks dropped are taken away, each as it was then. This is so after
every deed, whatever is done to banks, and in every run of requests, up to its closing down. A deed
in a bank logs one event if it opens or takes out a branch or a vault, and none otherwise; other
deeds log nothing, and neither do requests that fail. In every branch, what is not occupied is
available, in the order of its coming. -/
theorem log_accounts_for_tree (ds : List HouseDeed) (steps : List Step) :
    let h := MarkedHouse.empty.performAll ds
    let done := HouseDeed.performAll .empty ds
    let w := (World.empty.run steps).2
    let log := (World.empty.run steps).1.flatMap Entry.log
    AccountedFor done.1.values done.2 (HouseDeed.copies .empty ds) (HouseDeed.drops .empty ds) ∧
    (∀ (d : HouseDeed) (banks : Slots Bank), (d.perform banks).2 = [] ∨
      ∃ slot e b, d = .inBank slot e ∧ banks.find? slot = some b ∧
        d.perform banks = (banks.put slot (e.perform b).1, (e.perform b).2)) ∧
    (∀ (d : BankDeed) (b : Bank), d.Truthful b) ∧
    h.plain = done.1 ∧
    (∀ slot b, h.banks.find? slot = some b → ∀ r ∈ b.branches, r.Counted) ∧
    HouseDeed.performAll .empty (World.empty.houseDeeds steps) = (w.banks, ofBanks log) ∧
    AccountedFor w.banks.values log (World.empty.copies steps) (World.empty.drops steps) ∧
    AccountedFor [] ((transcript steps).flatMap Entry.log) (World.empty.copies steps)
      (World.empty.drops steps ++ w.banks.values) ∧
    ∀ s : Step, s.Truthful w := by
  intro h done w log
  have strict : h.Strict := MarkedHouse.strict_empty.performAll ds
  refine ⟨?_, HouseDeed.log_perform, BankDeed.truthful, (MarkedHouse.empty.plain_performAll ds).1,
    ?_, World.empty.performAll_houseDeeds steps, ?_, ?_, fun s => s.truthful w⟩
  · exact (HouseDeed.balanced_performAll .empty ds).accountedFor
  · intro slot b here r member
    exact ((strict.orderly here).branches r member).counted
  · exact (World.empty.balanced_run steps).of_ofBanks.accountedFor
  · exact (World.balanced_transcript steps).of_ofBanks.accountedFor

/-- A bank with two vaults is cloned, the clone loses one and is then replaced. A branch that is
there is removed, and one that is not is not. -/
theorem replaced_clone_accounted_for :
    let steps : List Step :=
      [.bank (.founded "a" 1 "A" none none),
        .bank (.openBranch "a" "x" "1" [⟨"v", some true, none⟩, ⟨"w", none, none⟩]),
        .bank (.clone "a" "b"), .branch (.change ⟨"b", .index 0⟩ (.removeVault "v")),
        .bank (.founded "b" 2 "B" none none)]
    let ds := World.empty.houseDeeds steps
    let w := (World.empty.run steps).2
    let log := (World.empty.run steps).1.flatMap Entry.log
    let removal := Step.bank (.removeBranch "a" 0)
    let failure := Step.bank (.removeBranch "b" 0)
    AccountedFor w.banks.values log (World.empty.copies steps) (World.empty.drops steps) ∧
    totalVaults w.banks.values = 2 ∧ timesTold "vault installed" log = 2 ∧
    timesTold "vault removed" log = 1 ∧ totalVaults (World.empty.copies steps) = 2 ∧
    totalVaults (World.empty.drops steps) = 1 ∧
    (∃ b, (MarkedHouse.empty.performAll ds).banks.find? "a" = some b ∧
      ∀ r ∈ b.branches, r.Counted) ∧
    (∃ (b : Bank) (r : Branch), w.banks.find? "a" = some b ∧ b.branches[0]? = some r ∧
      (removal.run w).1.log = [.branchRemoved b.name r.address 2] ∧ r.vaultCount = 2 ∧
      (removal.run w).2.banks = w.banks.put "a" { b with branches := b.branches.eraseIdx 0 }) ∧
    (failure.run w).2.banks = w.banks := by
  intro steps ds w log removal failure
  obtain ⟨-, -, -, -, counted, -, accounted, -, truthful⟩ := log_accounts_for_tree ds steps
  refine ⟨accounted, by decide, by decide, by decide, by decide, by decide,
    ⟨_, rfl, counted "a" _ rfl⟩, ?_, ?_⟩
  · have logged : (removal.run w).1.log = [.branchRemoved "A" "x" 2] := by decide
    obtain ⟨slot, index, b, r, asked, here, there, bank, address, many, banks⟩ :=
      (truthful removal).removed "A" "x" 2 (by rw [logged]; exact List.mem_singleton_self _)
    obtain ⟨rfl, rfl⟩ := BankStep.removeBranch.inj (Step.bank.inj asked)
    rw [bank, address] at logged
    exact ⟨b, r, here, there, logged, many.symm, banks⟩
  · refine ((truthful failure).silent fun o done => ?_).2
    cases done
    exact ⟨_, rfl⟩

end Countinghouse
