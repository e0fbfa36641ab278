import Countinghouse.Bank.Furnishing
import Countinghouse.World

/-! Requests about branches and vaults, which are found in the bank of a slot. -/
namespace Countinghouse

/-- Where a branch is looked for. -/
structure Spot where
  bank : String
  place : Place
deriving DecidableEq, Repr

def World.branch? (w : World) (s : Spot) : Except Refusal (Option Branch) :=
  (w.bank s.bank).map fun b => b.branch? s.place

def World.vault? (w : World) (s : Spot) (id : String) : Except Refusal (Option Vault) :=
  (w.branch? s).map fun b => b.bind (·.vault? id)

inductive BranchStep
  | get (s : Spot)
  | encode (s : Spot)
  | inspect (s : Spot)
  | change (s : Spot) (c : BranchChange)
  | equal (a b : Spot)
deriving DecidableEq, Repr

inductive VaultStep
  | get (s : Spot) (id : String)
  | encode (s : Spot) (id : String)
  | inspect (s : Spot) (id : String)
  | setId (s : Spot) (id newId : String)
  | setOccupied (s : Spot) (id : String) (occupied : Bool)
  | equal (s : Spot) (id : String) (s' : Spot) (id' : String)
deriving DecidableEq, Repr

/-- Equality of two things that were looked for; nothing when one is missing. -/
def replyEqual {α : Type} [DecidableEq α] (w : World) :
    Except Refusal (Option α) → Except Refusal (Option α) → Reply World
  | .error r, _ => .error r
  | _, .error r => .error r
  | .ok (some a), .ok (some b) => .ok (.said (.flag (a = b)) w)
  | .ok _, .ok _ => .ok (.said .nothing w)

def BranchStep.perform (step : BranchStep) (w : World) : Reply World :=
  match step with
  | get s => (w.branch? s).map fun b => .said (.ofOption .branch b) w
  | encode s => (w.branch? s).map fun b => .said (.ofOption (fun r => .text r.toJson.toText) b) w
  | inspect s => (w.branch? s).map fun b => .said (.ofOption (fun r => .text r.inspect) b) w
  | change s c =>
    (w.bank s.bank).map fun b =>
      match b.branch? s.place with
      | none => .said .nothing w
      | some branch =>
        match c.apply branch with
        | .error e => .failure e w
        | .ok (changed, log) =>
          .logged (.branch changed) log (w.setBank s.bank (b.updateBranch s.place fun _ => changed))
  | equal s s' => replyEqual w (w.branch? s) (w.branch? s')

namespace VaultStep

/-- Changes a vault that exists and shows its branch. -/
def changed (w : World) (s : Spot) (id : String) (f : Vault → Vault) : Reply World :=
  (w.bank s.bank).map fun b =>
    match b.branch? s.place with
    | none => .said .nothing w
    | some branch =>
      if (branch.vault? id).isSome then
        .said (.branch (branch.updateVault id f))
          (w.setBank s.bank (b.updateBranch s.place (·.updateVault id f)))
      else .said .nothing w

def perform (step : VaultStep) (w : World) : Reply World :=
  match step with
  | get s id => (w.vault? s id).map fun v => .said (.ofOption .vault v) w
  | encode s id =>
    (w.vault? s id).map fun v => .said (.ofOption (fun x => .text x.toJson.toText) v) w
  | inspect s id => (w.vault? s id).map fun v => .said (.ofOption (fun x => .text x.inspect) v) w
  | setId s id newId => changed w s id (.setId newId)
  | setOccupied s id occupied => changed w s id (.setOccupied occupied)
  | equal s id s' id' => replyEqual w (w.vault? s id) (w.vault? s' id')

end VaultStep
end Countinghouse
