import Countinghouse.Bank.Furnishing
import Countinghouse.World

/-! Requests about banks, which are named by their slots. -/
namespace Countinghouse

inductive BankStep
  | founded (slot : String) (id : Int64) (name : String) (customer teller : Option String)
  | clone (source slot : String)
  | drop (slot : String)
  | get (slot : String)
  | counts (slot : String)
  | setId (slot : String) (id : Int64)
  | setName (slot : String) (name : String)
  | setCustomer (slot : String) (customer : Option String)
  | setTeller (slot : String) (teller : Option String)
  | openBranch (slot : String) (address phoneNumber : String) (vaults : List VaultPlan)
  | removeBranch (slot : String) (index : UInt64)
  | fill (slot : String) (occupied : Bool)
  | rephone (slot : String) (phoneNumber : String)
deriving DecidableEq, Repr

namespace BankStep

/-- Changes the bank in a slot. -/
def changed (w : World) (slot : String) (b : Bank) (answer : Bank → Answer) : Outcome World :=
  .said (answer b) (w.setBank slot b)

/-- The new handle is held before the old one is let go. -/
def exchanged (w : World) (slot : String) (old new : Option Handle) (b : Bank) : Outcome World :=
  let w' := { w with people := (w.people.retainAll new.toList).releaseAll old.toList }
  .said (w'.personAnswer new) (w'.setBank slot b)

/-- The people named are sought before the bank, the customer before the teller. -/
def perform (step : BankStep) (w : World) : Reply World :=
  match step with
  | founded slot id name customer teller =>
    match w.people.resolveOptional .customer customer, w.people.resolveOptional .teller teller with
    | .error r, _ => .error r
    | _, .error r => .error r
    | .ok c, .ok t =>
      let b : Bank := ⟨id, name, c, t, []⟩
      let w' := World.putBank { w with people := w.people.retainAll b.handles } slot b
      .ok (.said (.bank (w'.bankView b)) w')
  | clone source slot =>
    (w.bank source).map fun b =>
      let c := b.clone
      let w' := World.putBank { w with people := w.people.retainAll c.handles } slot c
      .said (.bank (w'.bankView c)) w'
  | drop slot =>
    (w.bank slot).map fun b =>
      .said .dropped { w.discardBank b with banks := w.banks.clear slot }
  | get slot => (w.bank slot).map fun b => .said (.bank (w.bankView b)) w
  | counts slot => (w.bank slot).map fun b => .said (.counts b.counts) w
  | setId slot id =>
    (w.bank slot).map fun b => changed w slot { b with id := id } fun b => .counts b.counts
  | setName slot name =>
    (w.bank slot).map fun b => changed w slot { b with name := name } fun b => .counts b.counts
  | setCustomer slot customer =>
    match w.people.resolveOptional .customer customer with
    | .error r => .error r
    | .ok h => (w.bank slot).map fun b => exchanged w slot b.customer h { b with customer := h }
  | setTeller slot teller =>
    match w.people.resolveOptional .teller teller with
    | .error r => .error r
    | .ok h => (w.bank slot).map fun b => exchanged w slot b.teller h { b with teller := h }
  | openBranch slot address phoneNumber vaults =>
    (w.bank slot).map fun b =>
      let (opened, event) := b.openBranch address phoneNumber
      let (branch, log) := (Branch.bare address phoneNumber).furnish vaults
      let furnished := opened.updateLastBranch fun _ => branch
      .logged (.opening branch furnished.counts) (event :: log) (w.setBank slot furnished)
  | removeBranch slot index =>
    (w.bank slot).map fun b =>
      match b.removeBranch index with
      | .ok (b, event) => .logged (.counts b.counts) [event] (w.setBank slot b)
      | .error e => .failure e w
  | fill slot occupied =>
    (w.bank slot).map fun b =>
      changed w slot (b.updateBranches (Branch.fill · occupied)) fun b =>
        .tally (b.branches.map Branch.occupiedCount)
  | rephone slot phoneNumber =>
    (w.bank slot).map fun b =>
      changed w slot (b.updateBranches fun r => { r with phoneNumber := phoneNumber }) fun b =>
        .texts (b.branches.map Branch.phoneNumber)

end BankStep
end Countinghouse
