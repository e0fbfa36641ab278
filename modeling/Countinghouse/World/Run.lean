import Countinghouse.World.AccountStep
import Countinghouse.World.BankStep
import Countinghouse.World.BranchStep
import Countinghouse.World.PersonStep

/-! Runs: requests done one after the other in a new house, which is closed down at the end. -/
namespace Countinghouse

inductive Step
  | person (s : PersonStep)
  | account (s : AccountStep)
  | bank (s : BankStep)
  | branch (s : BranchStep)
  | vault (s : VaultStep)
  | malformed

/-- A line of a transcript: the answer to a request and what was logged meanwhile. -/
structure Entry where
  answer : Answer
  log : List Event

namespace Step

def perform : Step → World → Reply World
  | person s, w => s.perform w
  | account s, w => s.perform w
  | bank s, w => s.perform w
  | branch s, w => s.perform w
  | vault s, w => s.perform w
  | malformed, _ => .error .badInput

/-- A request that is turned away leaves the house as it was. -/
def run (s : Step) (w : World) : Entry × World :=
  match s.perform w with
  | .error r => (⟨.refused r, []⟩, w)
  | .ok ⟨.ok a, log, w'⟩ => (⟨a, log⟩, w')
  | .ok ⟨.error e, log, w'⟩ => (⟨.failed e, log⟩, w')

end Step

namespace World

def run (w : World) : List Step → List Entry × World
  | [] => ([], w)
  | s :: ss =>
    let (entry, next) := s.run w
    let (entries, last) := next.run ss
    (entry :: entries, last)

def discardBanks (w : World) : World :=
  { w.banks.values.foldl discardBank w with banks := .empty }

def discardEach (w : World) : List Account → World × List Event
  | [] => (w, [])
  | a :: as =>
    let (next, log) := w.discardAccount a
    let (last, rest) := next.discardEach as
    (last, log ++ rest)

/-- Accounts go in the order of their slots. -/
def discardAccounts (w : World) : World × List Event :=
  let (last, log) := w.discardEach w.accounts.values
  ({ last with accounts := .empty }, log)

/-- Closes the house down: first the banks go, then the accounts. -/
def closeDown (w : World) : World × List Event := w.discardBanks.discardAccounts

/-- The people left, and how often each is held. -/
def holdings (w : World) : List (String × Nat) :=
  w.people.slots.entries.map fun e => (e.1, w.people.register.refs e.2)

end World

/-- The whole of a run; its last line shows who is still held. -/
def transcript (steps : List Step) : List Entry :=
  let (entries, w) := World.empty.run steps
  let (last, log) := w.closeDown
  entries ++ [⟨.ending last.holdings, log⟩]

end Countinghouse
