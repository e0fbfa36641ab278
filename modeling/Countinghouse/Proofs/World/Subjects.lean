import Countinghouse.Proofs.World.Agreement
import Countinghouse.World.Run
import Mathlib.Logic.Function.Defs

/-!
The banks that a request is about. What is said and done about a bank does not depend on the name of
its slot, and a request about others leaves it alone.
-/
namespace Countinghouse

/-- The bank that a request is about; for a cloning, the one that is cloned. -/
def BankStep.subject : BankStep → String
  | founded slot _ _ _ _ => slot
  | clone source _ => source
  | drop slot => slot
  | get slot => slot
  | counts slot => slot
  | setId slot _ => slot
  | setName slot _ => slot
  | setCustomer slot _ => slot
  | setTeller slot _ => slot
  | openBranch slot _ _ _ => slot
  | removeBranch slot _ => slot
  | fill slot _ => slot
  | rephone slot _ => slot

def BranchStep.spots : BranchStep → List Spot
  | get s => [s]
  | encode s => [s]
  | inspect s => [s]
  | change s _ => [s]
  | equal s s' => [s, s']

def VaultStep.spots : VaultStep → List Spot
  | get s _ => [s]
  | encode s _ => [s]
  | inspect s _ => [s]
  | setId s _ _ => [s]
  | setOccupied s _ _ => [s]
  | equal s _ s' _ => [s, s']

/-- The banks that the answer depends on: none, one, or the two of a comparison. -/
def Step.subjects : Step → List String
  | person _ => []
  | account _ => []
  | bank s => [s.subject]
  | branch s => s.spots.map Spot.bank
  | vault s => s.spots.map Spot.bank
  | malformed => []

/-! The same requests with the banks called by other names. -/

def BankStep.rename (f : String → String) : BankStep → BankStep
  | founded slot id name customer teller => founded (f slot) id name customer teller
  | clone source slot => clone (f source) (f slot)
  | drop slot => drop (f slot)
  | get slot => get (f slot)
  | counts slot => counts (f slot)
  | setId slot id => setId (f slot) id
  | setName slot name => setName (f slot) name
  | setCustomer slot customer => setCustomer (f slot) customer
  | setTeller slot teller => setTeller (f slot) teller
  | openBranch slot address phoneNumber vaults => openBranch (f slot) address phoneNumber vaults
  | removeBranch slot index => removeBranch (f slot) index
  | fill slot occupied => fill (f slot) occupied
  | rephone slot phoneNumber => rephone (f slot) phoneNumber

def Spot.rename (f : String → String) (s : Spot) : Spot := ⟨f s.bank, s.place⟩

def BranchStep.rename (f : String → String) : BranchStep → BranchStep
  | get s => get (s.rename f)
  | encode s => encode (s.rename f)
  | inspect s => inspect (s.rename f)
  | change s c => change (s.rename f) c
  | equal s s' => equal (s.rename f) (s'.rename f)

def VaultStep.rename (f : String → String) : VaultStep → VaultStep
  | get s id => get (s.rename f) id
  | encode s id => encode (s.rename f) id
  | inspect s id => inspect (s.rename f) id
  | setId s id newId => setId (s.rename f) id newId
  | setOccupied s id occupied => setOccupied (s.rename f) id occupied
  | equal s id s' id' => equal (s.rename f) id (s'.rename f) id'

def Step.rename (f : String → String) : Step → Step
  | person s => person s
  | account s => account s
  | bank s => bank (s.rename f)
  | branch s => branch (s.rename f)
  | vault s => vault (s.rename f)
  | malformed => malformed

variable {slot place : String} {w u : World} {f : String → String}

namespace BankStep

lemma agrees_changed (agree : World.Agrees slot place w u) (b : Bank) (answer : Bank → Answer) :
    Reply.Agrees (World.Agrees slot place) (.ok (changed w slot b answer))
      (.ok (changed u place b answer)) :=
  .answered rfl (agree.setBank b)

lemma agrees_exchanged (agree : World.Agrees slot place w u) (old new : Option Handle) (b : Bank) :
    Reply.Agrees (World.Agrees slot place) (.ok (exchanged w slot old new b))
      (.ok (exchanged u place old new b)) := by
  have after := agree.withPeople
    ((agree.people.retainAll new.toList new.toList).releaseAll old.toList old.toList)
  exact .answered (after.personAnswer new) (after.setBank b)

lemma agrees_perform (inj : f.Injective) (s : BankStep)
    (agree : World.Agrees s.subject (f s.subject) w u) :
    Reply.Agrees (World.Agrees s.subject (f s.subject)) (s.perform w) ((s.rename f).perform u) := by
  cases s with
  | founded slot id name customer teller =>
    simp only [perform, rename, agree.people.resolveOptional]
    cases u.people.resolveOptional .customer customer with
    | error r => exact .refused r
    | ok c =>
      cases u.people.resolveOptional .teller teller with
      | error r => exact .refused r
      | ok t =>
        have settled := agree.settle (x := slot) (y := f slot) inj.eq_iff.symm ⟨id, name, c, t, []⟩
        exact .answered (congrArg Answer.bank (settled.bankView _)) settled
  | clone source slot =>
    refine agree.map_bank fun b => ?_
    have settled := agree.settle (x := slot) (y := f slot) inj.eq_iff.symm b.clone
    exact .answered (congrArg Answer.bank (settled.bankView _)) settled
  | drop slot =>
    refine agree.map_bank fun b => .answered rfl (World.Agrees.clear ?_)
    exact agree.withPeople (agree.people.releaseAll b.handles b.handles)
  | get slot =>
    exact agree.map_bank fun b => .answered (congrArg Answer.bank (agree.bankView b)) agree
  | counts slot => exact agree.map_bank fun b => .answered rfl agree
  | setId slot id => exact agree.map_bank fun b => agrees_changed agree _ _
  | setName slot name => exact agree.map_bank fun b => agrees_changed agree _ _
  | setCustomer slot customer =>
    simp only [perform, rename, agree.people.resolveOptional]
    cases u.people.resolveOptional .customer customer with
    | error r => exact .refused r
    | ok h => exact agree.map_bank fun b => agrees_exchanged agree _ _ _
  | setTeller slot teller =>
    simp only [perform, rename, agree.people.resolveOptional]
    cases u.people.resolveOptional .teller teller with
    | error r => exact .refused r
    | ok h => exact agree.map_bank fun b => agrees_exchanged agree _ _ _
  | openBranch slot address phoneNumber vaults =>
    exact agree.map_bank fun b => .answered rfl (agree.setBank _)
  | removeBranch slot index =>
    refine agree.map_bank fun b => ?_
    cases b.removeBranch index with
    | error e => exact .failed e agree
    | ok removed => exact .answered rfl (agree.setBank _)
  | fill slot occupied => exact agree.map_bank fun b => agrees_changed agree _ _
  | rephone slot phoneNumber => exact agree.map_bank fun b => agrees_changed agree _ _

end BankStep

namespace World.Agrees

lemma branch?_eq {s : Spot} (agree : World.Agrees s.bank (f s.bank) w u) :
    w.branch? s = u.branch? (s.rename f) := by
  simp only [World.branch?, Spot.rename, agree.bank_eq]

lemma vault?_eq {s : Spot} (agree : World.Agrees s.bank (f s.bank) w u) (id : String) :
    w.vault? s id = u.vault? (s.rename f) id := by
  rw [World.vault?, World.vault?, agree.branch?_eq]

lemma replyEqual {α : Type} [DecidableEq α] (agree : World.Agrees slot place w u)
    (x y : Except Refusal (Option α)) :
    Reply.Agrees (World.Agrees slot place) (replyEqual w x y) (replyEqual u x y) := by
  simp only [Countinghouse.replyEqual]
  split
  · exact .refused _
  · exact .refused _
  · exact .answered rfl agree
  · exact .answered rfl agree

end World.Agrees

lemma BranchStep.agrees_perform (s : BranchStep) (own : ∀ t ∈ s.spots, t.bank = slot)
    (agree : World.Agrees slot (f slot) w u) :
    Reply.Agrees (World.Agrees slot (f slot)) (s.perform w) ((s.rename f).perform u) := by
  cases s with
  | get s =>
    obtain rfl := own s (by simp [spots])
    simp only [perform, rename, agree.branch?_eq]
    exact .map fun b => .answered rfl agree
  | encode s =>
    obtain rfl := own s (by simp [spots])
    simp only [perform, rename, agree.branch?_eq]
    exact .map fun b => .answered rfl agree
  | inspect s =>
    obtain rfl := own s (by simp [spots])
    simp only [perform, rename, agree.branch?_eq]
    exact .map fun b => .answered rfl agree
  | change s c =>
    obtain rfl := own s (by simp [spots])
    refine agree.map_bank fun b => ?_
    simp only [Spot.rename]
    split
    · exact .answered rfl agree
    · split
      · exact .failed _ agree
      · exact .answered rfl (agree.setBank _)
  | equal s s' =>
    obtain rfl := own s (by simp [spots])
    have same : s'.bank = s.bank := own s' (by simp [spots])
    have there : World.Agrees s'.bank (f s'.bank) w u := by rwa [same]
    simp only [perform, rename, agree.branch?_eq, there.branch?_eq]
    exact agree.replyEqual _ _

lemma VaultStep.agrees_changed {s : Spot} (agree : World.Agrees s.bank (f s.bank) w u) (id : String)
    (g : Vault → Vault) :
    Reply.Agrees (World.Agrees s.bank (f s.bank)) (changed w s id g)
      (changed u (s.rename f) id g) := by
  refine agree.map_bank fun b => ?_
  simp only [Spot.rename]
  split
  · exact .answered rfl agree
  · split
    · exact .answered rfl (agree.setBank _)
    · exact .answered rfl agree

lemma VaultStep.agrees_perform (s : VaultStep) (own : ∀ t ∈ s.spots, t.bank = slot)
    (agree : World.Agrees slot (f slot) w u) :
    Reply.Agrees (World.Agrees slot (f slot)) (s.perform w) ((s.rename f).perform u) := by
  cases s with
  | get s id =>
    obtain rfl := own s (by simp [spots])
    simp only [perform, rename, agree.vault?_eq]
    exact .map fun v => .answered rfl agree
  | encode s id =>
    obtain rfl := own s (by simp [spots])
    simp only [perform, rename, agree.vault?_eq]
    exact .map fun v => .answered rfl agree
  | inspect s id =>
    obtain rfl := own s (by simp [spots])
    simp only [perform, rename, agree.vault?_eq]
    exact .map fun v => .answered rfl agree
  | setId s id newId =>
    obtain rfl := own s (by simp [spots])
    exact agrees_changed agree id _
  | setOccupied s id occupied =>
    obtain rfl := own s (by simp [spots])
    exact agrees_changed agree id _
  | equal s id s' id' =>
    obtain rfl := own s (by simp [spots])
    have same : s'.bank = s.bank := own s' (by simp [spots])
    have there : World.Agrees s'.bank (f s'.bank) w u := by rwa [same]
    simp only [perform, rename, agree.vault?_eq, there.vault?_eq]
    exact agree.replyEqual _ _

/-- A request is one of a bank's own if it is about that bank alone, or about no bank. -/
def Step.isOf (slot : String) (s : Step) : Bool := s.subjects.all (· == slot)

lemma Step.agrees_perform (inj : f.Injective) (s : Step) (own : s.isOf slot)
    (agree : World.Agrees slot (f slot) w u) :
    Reply.Agrees (World.Agrees slot (f slot)) (s.perform w) ((s.rename f).perform u) := by
  cases s with
  | person s => exact s.agrees_perform agree
  | account s => exact s.agrees_perform agree
  | bank s =>
    obtain rfl : s.subject = slot := by simpa [isOf, subjects] using own
    exact s.agrees_perform inj agree
  | branch s => exact s.agrees_perform (by simpa [isOf, subjects] using own) agree
  | vault s => exact s.agrees_perform (by simpa [isOf, subjects] using own) agree
  | malformed => exact .refused .badInput

end Countinghouse
