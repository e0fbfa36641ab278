import Countinghouse.Account.Visit

/-!
Blocks of actions on one account. A block stops at its first failure; a scoped block closes the
account behind itself, however it ended.
-/
namespace Countinghouse

inductive BlockStep
  | act (a : Act)
  | goodbye (language : String)
  | fail (e : Failure)
  | scopedBlock (steps : List BlockStep) (caught : Bool)
  | malformed

/-- How far a block came: its answers, the failure that stopped it, its log and the state left. -/
structure Progress where
  answers : List Answer
  failure : Option Failure
  log : List Event
  visit : Visit

namespace Progress

/-- A block that was not stopped counts its answers. -/
def result (p : Progress) : Except Failure Nat :=
  match p.failure with
  | some e => .error e
  | none => .ok p.answers.length

def said (a : Answer) (v : Visit) : Progress := ⟨[a], none, [], v⟩

def stopped (e : Failure) (v : Visit) : Progress := ⟨[], some e, [], v⟩

def ofReply (v : Visit) : Reply Visit → Progress
  | .error r => said (.refused r) v
  | .ok ⟨.ok a, log, v'⟩ => ⟨[a], none, log, v'⟩
  | .ok ⟨.error e, log, v'⟩ => ⟨[], some e, log, v'⟩

/-- What comes next is done unless a failure has stopped the block. -/
def andThen (p : Progress) (next : Visit → Progress) : Progress :=
  match p.failure with
  | some _ => p
  | none =>
    let q := next p.visit
    ⟨p.answers ++ q.answers, q.failure, p.log ++ q.log, q.visit⟩

end Progress

/-- Runs a block and closes the account afterwards; the block's own result stands. -/
def runScoped (block : Visit → Progress) (v : Visit) : Progress :=
  let p := block v
  { p with log := p.log ++ p.visit.close.2, visit := p.visit.close.1 }

/-- An inner block answers with its result; unless caught, its failure stops the outer one too. -/
def Progress.nested (p : Progress) (caught : Bool) : Progress :=
  ⟨[.block p.answers p.result none], if caught then none else p.failure, p.log, p.visit⟩

def sayGoodbye (language : String) (v : Visit) : Progress :=
  match v.account.customer.bind v.people.person? with
  | none => .said .nothing v
  | some person =>
    match person.goodbye language with
    | .ok s => .said (.text s) v
    | .error e => .stopped e v

mutual

def BlockStep.run : BlockStep → Visit → Progress
  | .act a, v => .ofReply v (a.perform v)
  | .goodbye language, v => sayGoodbye language v
  | .fail e, v => .stopped e v
  | .scopedBlock steps caught, v => (runScoped (runBlock steps) v).nested caught
  | .malformed, v => .said (.refused .badInput) v

def runBlock : List BlockStep → Visit → Progress
  | [], v => ⟨[], none, [], v⟩
  | step :: steps, v => (step.run v).andThen (runBlock steps)

end

end Countinghouse
