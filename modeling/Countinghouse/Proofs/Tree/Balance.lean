import Countinghouse.Proofs.Slots.Totals
import Countinghouse.Proofs.Tree.Shapes
import Mathlib.Algebra.Group.Prod
import Mathlib.Tactic.Abel

/-!
The balance of the tree. The branches and vaults that stand after a run, with those that were
reported gone or went with their banks, are those that stood before it, with those that were
reported new or came with copies of banks.
-/
namespace Countinghouse

/-- How many branches a bank has, and how many vaults. -/
def Bank.extent (b : Bank) : Nat × Nat := (b.branchCount, b.vaultCount)

/-- The extents of banks, taken together. -/
def extents (bs : List Bank) : Nat × Nat := (bs.map Bank.extent).sum

def Event.gain : Event → Nat × Nat
  | branchOpened _ _ => (1, 0)
  | vaultInstalled _ _ => (0, 1)
  | _ => 0

def Event.loss : Event → Nat × Nat
  | vaultRemoved _ _ => (0, 1)
  | branchRemoved _ _ vaults => (1, vaults)
  | _ => 0

def gains (log : List Event) : Nat × Nat := (log.map Event.gain).sum

def losses (log : List Event) : Nat × Nat := (log.map Event.loss).sum

lemma gains_cons (e : Event) (log : List Event) : gains (e :: log) = e.gain + gains log := by
  rw [gains, List.map_cons, List.sum_cons, gains]

lemma losses_cons (e : Event) (log : List Event) : losses (e :: log) = e.loss + losses log := by
  rw [losses, List.map_cons, List.sum_cons, losses]

lemma gains_append (log rest : List Event) : gains (log ++ rest) = gains log + gains rest := by
  rw [gains, List.map_append, List.sum_append]
  rfl

lemma losses_append (log rest : List Event) : losses (log ++ rest) = losses log + losses rest := by
  rw [losses, List.map_append, List.sum_append]
  rfl

lemma extents_append (bs cs : List Bank) : extents (bs ++ cs) = extents bs + extents cs := by
  rw [extents, List.map_append, List.sum_append]
  rfl

@[simp] lemma extents_nil : extents [] = 0 := rfl

@[simp] lemma extents_singleton (b : Bank) : extents [b] = b.extent := List.sum_singleton

lemma extents_toList (b : Option Bank) : extents b.toList = b.elim 0 Bank.extent := by
  cases b with
  | none => rfl
  | some b => exact extents_singleton b

lemma extents_values (banks : Slots Bank) : extents banks.values = banks.total Bank.extent := rfl

/-- The change of a shape is what the log says was gained and lost. -/
lemma Bank.Change.balance {b : Bank} {log : List Event} {shape : List Nat}
    (change : b.Change log shape) :
    (shape.length, shape.sum) + losses log = b.extent + gains log := by
  rw [Bank.extent, ← b.length_shape, ← b.sum_shape]
  cases change with
  | silent => rfl
  | branchOpened address =>
    rw [List.length_append, List.sum_append]
    rfl
  | branchRemoved i r here =>
    have counted := Bank.shape_getElem? here
    rw [← List.length_eraseIdx_add_one (List.getElem?_eq_some_iff.1 counted).1,
      ← sum_eraseIdx counted]
    rfl
  | vaultInstalled i r here id =>
    have more : (b.shape.set i (r.vaultCount + 1)).sum = b.shape.sum + 1 := by
      have changed := sum_set (Bank.shape_getElem? here) (r.vaultCount + 1)
      omega
    rw [List.length_set, more]
    rfl
  | vaultRemoved i n r here many id =>
    have fewer : b.shape.sum = (b.shape.set i n).sum + 1 := by
      have changed := sum_set (Bank.shape_getElem? here) n
      omega
    rw [List.length_set, fewer]
    rfl

/-- Between two states of the house, with what was reported, copied and dropped meanwhile. -/
def Balanced (before : Slots Bank) (log : List Event) (copied dropped : List Bank)
    (after : Slots Bank) : Prop :=
  after.total Bank.extent + losses log + extents dropped =
    before.total Bank.extent + gains log + extents copied

namespace Balanced

variable {first second third : Slots Bank} {log log' : List Event}
  {copied copied' dropped dropped' : List Bank}

lemma refl (banks : Slots Bank) : Balanced banks [] [] [] banks := rfl

lemma trans (early : Balanced first log copied dropped second)
    (late : Balanced second log' copied' dropped' third) :
    Balanced first (log ++ log') (copied ++ copied') (dropped ++ dropped') third := by
  rw [Balanced] at *
  rw [losses_append, gains_append, extents_append, extents_append]
  calc third.total Bank.extent + (losses log + losses log') + (extents dropped + extents dropped')
      = third.total Bank.extent + losses log' + extents dropped' +
          (losses log + extents dropped) := by abel
    _ = second.total Bank.extent + gains log' + extents copied' +
          (losses log + extents dropped) := by rw [late]
    _ = second.total Bank.extent + losses log + extents dropped +
          (gains log' + extents copied') := by abel
    _ = first.total Bank.extent + gains log + extents copied +
          (gains log' + extents copied') := by rw [early]
    _ = _ := by abel

end Balanced

namespace HouseDeed

/-- The bank that a deed makes a copy of. -/
def copied (d : HouseDeed) (banks : Slots Bank) : Option Bank :=
  match d with
  | clone source _ => banks.find? source
  | _ => none

/-- The bank that a deed drops, or puts another in the place of. -/
def dropped (d : HouseDeed) (banks : Slots Bank) : Option Bank :=
  match d with
  | found slot _ _ _ _ => banks.find? slot
  | clone source slot => (banks.find? source).bind fun _ => banks.find? slot
  | drop slot => banks.find? slot
  | inBank _ _ => none

/-- All banks that are copied, each as it is then. -/
def copies (banks : Slots Bank) : List HouseDeed → List Bank
  | [] => []
  | d :: ds => (d.copied banks).toList ++ copies (d.perform banks).1 ds

/-- All banks that are dropped, each as it is then. -/
def drops (banks : Slots Bank) : List HouseDeed → List Bank
  | [] => []
  | d :: ds => (d.dropped banks).toList ++ drops (d.perform banks).1 ds

/-- Only what is done in a bank is reported. -/
lemma log_perform (d : HouseDeed) (banks : Slots Bank) :
    (d.perform banks).2 = [] ∨ ∃ slot e b, d = .inBank slot e ∧ banks.find? slot = some b ∧
      d.perform banks = (banks.put slot (e.perform b).1, (e.perform b).2) := by
  cases d with
  | found slot id name customer teller => exact .inl rfl
  | clone source slot =>
    simp only [perform]
    split <;> exact .inl rfl
  | drop slot =>
    simp only [perform]
    split <;> exact .inl rfl
  | inBank slot e =>
    simp only [perform]
    cases here : banks.find? slot with
    | none => exact .inl rfl
    | some b => exact .inr ⟨slot, e, b, rfl, here, rfl⟩

variable {banks : Slots Bank}

/-- What is put into a slot comes, and what the slot held goes. -/
lemma balanced_put (banks : Slots Bank) (slot : String) (b : Bank) {copied : List Bank}
    (origin : extents copied = b.extent) :
    Balanced banks [] copied (banks.find? slot).toList (banks.put slot b) := by
  have filled := banks.total_put Bank.extent slot b
  rw [Balanced, extents_toList, origin]
  calc (banks.put slot b).total Bank.extent + losses [] + (banks.find? slot).elim 0 Bank.extent
      = b.extent + banks.total Bank.extent := by rw [← filled]; rfl
    _ = banks.total Bank.extent + gains [] + b.extent := add_comm ..

lemma balanced_drop {slot : String} {b : Bank} (here : banks.find? slot = some b) :
    Balanced banks [] [] [b] (banks.clear slot) := by
  rw [Balanced, banks.total_of_find? Bank.extent here]
  exact congrArg _ (extents_singleton b)

lemma balanced_inBank {slot : String} {b : Bank} (here : banks.find? slot = some b) (d : BankDeed) :
    Balanced banks (d.perform b).2 [] [] (banks.put slot (d.perform b).1) := by
  have change := (b.change_perform d).balance
  rw [Bank.length_shape, Bank.sum_shape] at change
  rw [Balanced, Slots.total_put_eq, banks.total_of_find? Bank.extent here, extents_nil, add_zero,
    add_zero, add_assoc, add_assoc]
  exact congrArg _ change

lemma balanced (d : HouseDeed) (banks : Slots Bank) :
    Balanced banks (d.perform banks).2 (d.copied banks).toList (d.dropped banks).toList
      (d.perform banks).1 := by
  cases d with
  | found slot id name customer teller => exact balanced_put banks slot _ rfl
  | clone source slot =>
    simp only [perform, copied, dropped]
    cases banks.find? source with
    | none => exact .refl banks
    | some b =>
      have copied : extents [b] = b.clone.extent := by
        rw [b.clone_eq]
        exact extents_singleton b
      exact balanced_put banks slot b.clone copied
  | drop slot =>
    simp only [perform, copied, dropped]
    cases here : banks.find? slot with
    | none => exact .refl banks
    | some b => exact balanced_drop here
  | inBank slot d =>
    simp only [perform, copied, dropped]
    cases here : banks.find? slot with
    | none => exact .refl banks
    | some b => exact balanced_inBank here d

/-- Whatever is done to a house, its log and the banks copied and dropped account for its tree. -/
lemma balanced_performAll (banks : Slots Bank) (ds : List HouseDeed) :
    Balanced banks (performAll banks ds).2 (copies banks ds) (drops banks ds)
      (performAll banks ds).1 := by
  induction ds generalizing banks with
  | nil => exact .refl banks
  | cons d ds ih => exact (d.balanced banks).trans (ih (d.perform banks).1)

end HouseDeed
end Countinghouse
