import Countinghouse.Proofs.World.Holders
import Countinghouse.Proofs.World.Subjects

/-!
The footprint of a request. A request has one seat at most whose holding it may exchange; what sits
elsewhere stays there as it is.
-/
namespace Countinghouse

/-- A slot of one of the three kinds. -/
inductive Seat
  | person (slot : String)
  | account (slot : String)
  | bank (slot : String)
deriving DecidableEq, Repr

/-- The handle, the account or the bank at a seat is the same in both houses. -/
def World.SameAt (w w' : World) : Seat → Prop
  | .person slot => w'.people.slots.find? slot = w.people.slots.find? slot
  | .account slot => w'.accounts.find? slot = w.accounts.find? slot
  | .bank slot => w'.banks.find? slot = w.banks.find? slot

/-- Whatever sits elsewhere is the same in both houses. -/
def World.Spared (w : World) (seat : Option Seat) (w' : World) : Prop :=
  ∀ other, seat ≠ some other → w.SameAt w' other

def PersonStep.seat? : PersonStep → Option Seat
  | introduce slot _ => some (.person slot)
  | share _ slot => some (.person slot)
  | copy _ slot => some (.person slot)
  | drop slot => some (.person slot)
  | _ => none

def AccountStep.seat? : AccountStep → Option Seat
  | opened slot _ _ _ => some (.account slot)
  | act slot _ => some (.account slot)
  | drop slot => some (.account slot)
  | scopedBlock slot _ => some (.account slot)

/-- A cloning puts a bank at the seat of the clone. -/
def BankStep.seat? : BankStep → Option Seat
  | clone _ slot => some (.bank slot)
  | s => some (.bank s.subject)

def BranchStep.seat? : BranchStep → Option Seat
  | change s _ => some (.bank s.bank)
  | _ => none

def VaultStep.seat? : VaultStep → Option Seat
  | setId s _ _ => some (.bank s.bank)
  | setOccupied s _ _ => some (.bank s.bank)
  | _ => none

/-- The seat whose holding a request may exchange. -/
def Step.seat? : Step → Option Seat
  | person s => s.seat?
  | account s => s.seat?
  | bank s => s.seat?
  | branch s => s.seat?
  | vault s => s.seat?
  | malformed => none

variable {w w' : World} {slot : String} {o : Outcome World}

namespace World

lemma Spared.refl (seat : Option Seat) (w : World) : w.Spared seat w := by
  intro other _
  cases other <;> rfl

/-- Nothing is changed but the bank of one slot, and how often people are held. -/
structure Confined (w : World) (slot : String) (w' : World) : Prop where
  slots : w'.people.slots = w.people.slots
  people : ∀ h, w'.people.person? h = w.people.person? h
  accounts : w'.accounts = w.accounts
  banks : ∀ other, other ≠ slot → w'.banks.find? other = w.banks.find? other

namespace Confined

lemma refl (w : World) (slot : String) : w.Confined slot w :=
  ⟨rfl, fun _ => rfl, rfl, fun _ _ => rfl⟩

lemma spared (confined : w.Confined slot w') : w.Spared (some (.bank slot)) w' := by
  intro other elsewhere
  cases other with
  | person x => exact congrArg (Slots.find? · x) confined.slots
  | account x => exact congrArg (Slots.find? · x) confined.accounts
  | bank x =>
    refine confined.banks x ?_
    rintro rfl
    exact elsewhere rfl

end Confined

lemma confined_setBank (w : World) (slot : String) (b : Bank) :
    w.Confined slot (w.setBank slot b) where
  slots := rfl
  people _ := rfl
  accounts := rfl
  banks other elsewhere := by rw [setBank, Slots.find?_put, if_neg elsewhere]

lemma confined_putBank (w : World) (slot : String) (b : Bank) :
    w.Confined slot (World.putBank { w with people := w.people.retainAll b.handles } slot b) where
  slots := slots_putBank _ slot b
  people h := by
    rw [putBank]
    split
    · exact Register.person?_retainAll ..
    · exact (Register.person?_releaseAll ..).trans (Register.person?_retainAll ..)
  accounts := accounts_putBank _ slot b
  banks other elsewhere := by rw [banks_putBank, Slots.find?_put, if_neg elsewhere]

lemma confined_clearBank (w : World) (slot : String) (b : Bank) :
    w.Confined slot { w.discardBank b with banks := w.banks.clear slot } where
  slots := rfl
  people := Register.person?_releaseAll w.people.register _
  accounts := rfl
  banks other elsewhere := by rw [Slots.find?_clear, if_neg elsewhere]

end World

open World

lemma BankStep.confined_exchanged (w : World) (slot : String) (old new : Option Handle) (b : Bank) :
    w.Confined slot (exchanged w slot old new b).state where
  slots := rfl
  people h := (Register.person?_releaseAll ..).trans (Register.person?_retainAll ..)
  accounts := rfl
  banks other elsewhere := by
    show (w.banks.put slot b).find? other = _
    rw [Slots.find?_put, if_neg elsewhere]

/-- A request to a bank changes the bank of its seat at most. -/
lemma BankStep.confined {s : BankStep} (done : s.perform w = .ok o) :
    ∃ slot, s.seat? = some (.bank slot) ∧ w.Confined slot o.state := by
  cases s with
  | founded slot id name customer teller =>
    simp only [perform] at done
    split at done
    · cases done
    · cases done
    · cases done
      exact ⟨slot, rfl, w.confined_putBank slot _⟩
  | clone source slot =>
    obtain ⟨b, -, rfl⟩ := exists_of_map_eq_ok done
    exact ⟨slot, rfl, w.confined_putBank slot b.clone⟩
  | drop slot =>
    obtain ⟨b, -, rfl⟩ := exists_of_map_eq_ok done
    exact ⟨slot, rfl, w.confined_clearBank slot b⟩
  | get slot =>
    obtain ⟨b, -, rfl⟩ := exists_of_map_eq_ok done
    exact ⟨slot, rfl, .refl w slot⟩
  | counts slot =>
    obtain ⟨b, -, rfl⟩ := exists_of_map_eq_ok done
    exact ⟨slot, rfl, .refl w slot⟩
  | setCustomer slot customer =>
    simp only [perform] at done
    split at done
    · cases done
    · obtain ⟨b, -, rfl⟩ := exists_of_map_eq_ok done
      exact ⟨slot, rfl, confined_exchanged w slot ..⟩
  | setTeller slot teller =>
    simp only [perform] at done
    split at done
    · cases done
    · obtain ⟨b, -, rfl⟩ := exists_of_map_eq_ok done
      exact ⟨slot, rfl, confined_exchanged w slot ..⟩
  | removeBranch slot index =>
    obtain ⟨b, -, rfl⟩ := exists_of_map_eq_ok done
    cases b.removeBranch index with
    | error e => exact ⟨slot, rfl, .refl w slot⟩
    | ok removed => exact ⟨slot, rfl, w.confined_setBank slot _⟩
  | setId slot id =>
    obtain ⟨b, -, rfl⟩ := exists_of_map_eq_ok done
    exact ⟨slot, rfl, w.confined_setBank slot _⟩
  | setName slot name =>
    obtain ⟨b, -, rfl⟩ := exists_of_map_eq_ok done
    exact ⟨slot, rfl, w.confined_setBank slot _⟩
  | openBranch slot address phoneNumber vaults =>
    obtain ⟨b, -, rfl⟩ := exists_of_map_eq_ok done
    exact ⟨slot, rfl, w.confined_setBank slot _⟩
  | fill slot occupied =>
    obtain ⟨b, -, rfl⟩ := exists_of_map_eq_ok done
    exact ⟨slot, rfl, w.confined_setBank slot _⟩
  | rephone slot phoneNumber =>
    obtain ⟨b, -, rfl⟩ := exists_of_map_eq_ok done
    exact ⟨slot, rfl, w.confined_setBank slot _⟩

lemma BranchStep.confined {s : BranchStep} (done : s.perform w = .ok o) :
    o.state = w ∨ ∃ slot, s.seat? = some (.bank slot) ∧ w.Confined slot o.state := by
  cases s with
  | change s c =>
    obtain ⟨b, -, rfl⟩ := exists_of_map_eq_ok done
    split
    · exact .inl rfl
    · split
      · exact .inl rfl
      · exact .inr ⟨s.bank, rfl, w.confined_setBank s.bank _⟩
  | equal s s' => exact .inl (replyEqual_silent done).2
  | _ =>
    obtain ⟨-, -, rfl⟩ := exists_of_map_eq_ok done
    exact .inl rfl

lemma VaultStep.confined_changed {s : Spot} {id : String} {f : Vault → Vault}
    (done : changed w s id f = .ok o) : w.Confined s.bank o.state := by
  obtain ⟨b, -, rfl⟩ := exists_of_map_eq_ok done
  split
  · exact .refl w s.bank
  · split
    · exact w.confined_setBank s.bank _
    · exact .refl w s.bank

lemma VaultStep.confined {s : VaultStep} (done : s.perform w = .ok o) :
    o.state = w ∨ ∃ slot, s.seat? = some (.bank slot) ∧ w.Confined slot o.state := by
  cases s with
  | setId s id newId => exact .inr ⟨s.bank, rfl, confined_changed done⟩
  | setOccupied s id occupied => exact .inr ⟨s.bank, rfl, confined_changed done⟩
  | equal s id s' id' => exact .inl (replyEqual_silent done).2
  | _ =>
    obtain ⟨-, -, rfl⟩ := exists_of_map_eq_ok done
    exact .inl rfl

lemma World.spared_account (slots : w'.people.slots = w.people.slots) (banks : w'.banks = w.banks)
    (others : ∀ other, other ≠ slot → w'.accounts.find? other = w.accounts.find? other) :
    w.Spared (some (.account slot)) w' := by
  intro other elsewhere
  cases other with
  | person x => exact congrArg (Slots.find? · x) slots
  | account x =>
    refine others x ?_
    rintro rfl
    exact elsewhere rfl
  | bank x => exact congrArg (Slots.find? · x) banks

lemma World.spared_afterVisit {v : Visit} (slots : v.people.slots = w.people.slots) :
    w.Spared (some (.account slot)) (w.afterVisit slot v) :=
  spared_account slots rfl fun other elsewhere => by
    rw [afterVisit, Slots.find?_put, if_neg elsewhere]

lemma AccountStep.spared {s : AccountStep} (done : s.perform w = .ok o) :
    w.Spared s.seat? o.state := by
  cases s with
  | opened slot kind id customer =>
    obtain ⟨h, -, rfl⟩ := exists_of_map_eq_ok done
    refine spared_account (slots_putAccount _ slot _) (banks_putAccount _ slot _) ?_
    intro other elsewhere
    show (World.putAccount _ slot _).1.accounts.find? other = _
    rw [accounts_putAccount, Slots.find?_put, if_neg elsewhere]
  | act slot a =>
    simp only [perform] at done
    split at done
    · cases done
    · rename_i v found
      obtain ⟨out, acted, rfl⟩ := exists_of_map_eq_ok done
      obtain ⟨b, there, rfl⟩ := exists_account_of_visit? (visit?_of_visit found)
      exact spared_afterVisit (Visit.leads_of_perform acted).slots
  | drop slot =>
    obtain ⟨v, -, rfl⟩ := exists_of_map_eq_ok done
    refine spared_account (w.slots_discardAccount v.account) rfl ?_
    intro other elsewhere
    show (w.accounts.clear slot).find? other = _
    rw [Slots.find?_clear, if_neg elsewhere]
  | scopedBlock slot steps =>
    obtain ⟨v, found, rfl⟩ := exists_of_map_eq_ok done
    obtain ⟨b, there, rfl⟩ := exists_account_of_visit? (visit?_of_visit found)
    exact spared_afterVisit
      ((BlockStep.scopedBlock steps false).leads_run ⟨w.people, b, w.clock⟩).slots

/-- A request about people keeps to the people. -/
lemma World.spared_people {people : People}
    (others : ∀ other, other ≠ slot → people.slots.find? other = w.people.slots.find? other) :
    w.Spared (some (.person slot)) { w with people := people } := by
  intro other elsewhere
  cases other with
  | person x =>
    refine others x ?_
    rintro rfl
    exact elsewhere rfl
  | account x => rfl
  | bank x => rfl

lemma World.spared_put (w : World) (people : People) (slots : people.slots = w.people.slots)
    (slot : String) (h : Handle) :
    w.Spared (some (.person slot)) { w with people := people.put slot h } := by
  refine spared_people fun other elsewhere => ?_
  show (people.slots.put slot h).find? other = _
  rw [Slots.find?_put, if_neg elsewhere, slots]

lemma World.spared_update (w : World) (h : Handle) (f : Person → Person) :
    w.Spared none { w with people := w.people.update h f } := by
  intro other _
  cases other <;> rfl

lemma PersonStep.spared {s : PersonStep} (done : s.perform w = .ok o) :
    w.Spared s.seat? o.state := by
  cases s with
  | introduce slot p =>
    cases done
    exact w.spared_put { w.people with register := (w.people.register.enter p).2 } rfl slot _
  | share source slot =>
    obtain ⟨⟨h, p⟩, -, rfl⟩ := exists_of_map_eq_ok done
    exact w.spared_put (w.people.retainAll [h]) rfl slot h
  | copy source slot =>
    obtain ⟨⟨h, p⟩, -, rfl⟩ := exists_of_map_eq_ok done
    exact w.spared_put { w.people with register := (w.people.register.enter p).2 } rfl slot _
  | drop slot =>
    obtain ⟨-, -, rfl⟩ := exists_of_map_eq_ok done
    refine spared_people fun other elsewhere => ?_
    show (w.people.slots.clear slot).find? other = _
    rw [Slots.find?_clear, if_neg elsewhere]
  | compare a b =>
    simp only [perform] at done
    split at done
    · split at done
      · cases done
        exact .refl none w
      · cases done
    · cases done
    · cases done
  | setId slot id =>
    obtain ⟨⟨h, p⟩, -, rfl⟩ := exists_of_map_eq_ok done
    exact w.spared_update h _
  | setName slot name =>
    obtain ⟨⟨h, p⟩, -, rfl⟩ := exists_of_map_eq_ok done
    exact w.spared_update h _
  | setDesk slot desk =>
    obtain ⟨h, -, rfl⟩ := exists_of_map_eq_ok done
    exact w.spared_update h _
  | _ =>
    obtain ⟨-, -, rfl⟩ := exists_of_map_eq_ok done
    exact .refl none w

namespace Step

lemma spared_perform {s : Step} (done : s.perform w = .ok o) : w.Spared s.seat? o.state := by
  cases s with
  | person s => exact s.spared done
  | account s => exact s.spared done
  | bank s =>
    obtain ⟨slot, seat, confined⟩ := s.confined done
    rw [seat?, seat]
    exact confined.spared
  | branch s =>
    obtain same | ⟨slot, seat, confined⟩ := s.confined done
    · rw [same]
      exact .refl _ w
    · rw [seat?, seat]
      exact confined.spared
  | vault s =>
    obtain same | ⟨slot, seat, confined⟩ := s.confined done
    · rw [same]
      exact .refl _ w
    · rw [seat?, seat]
      exact confined.spared
  | malformed => cases done

/-- A request that is turned away has no footprint at all. -/
lemma state_run (s : Step) (w : World) :
    (s.run w).2 = w ∨ ∃ o, s.perform w = .ok o ∧ (s.run w).2 = o.state := by
  cases done : s.perform w with
  | error r =>
    refine .inl ?_
    rw [run, done]
  | ok o =>
    refine .inr ⟨o, rfl, ?_⟩
    exact run_eq (by rw [done]; rfl)

lemma spared_run (s : Step) (w : World) : w.Spared s.seat? (s.run w).2 := by
  obtain same | ⟨o, done, same⟩ := s.state_run w
  · rw [same]
    exact .refl _ w
  · rw [same]
    exact spared_perform done

end Step
end Countinghouse
