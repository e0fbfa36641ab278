import Countinghouse.Account
import Countinghouse.Bank
import Countinghouse.People

/-! What the house answers to a request. -/
namespace Countinghouse

structure AccountView where
  id : Int64
  identifier : String
  closed : Bool
  stamped : Bool
  session : Except Failure Serial
  customer : Option PersonView

structure BankCounts where
  id : Int64
  name : String
  branchCount : Nat
  vaultCount : Nat
deriving DecidableEq, Repr

def Bank.counts (b : Bank) : BankCounts := ⟨b.id, b.name, b.branchCount, b.vaultCount⟩

structure BankView where
  bank : Bank
  customer : Option PersonView
  teller : Option PersonView

/-- What a closing found and left: whether it set the time of closing, and the customer after it. -/
structure Closing where
  wasClosed : Bool
  closed : Bool
  stamped : Bool
  hasCustomer : Bool
deriving DecidableEq, Repr

inductive Answer
  | refused (r : Refusal)
  | failed (e : Failure)
  | nothing
  | dropped
  | flag (b : Bool)
  | number (n : Int64)
  | text (s : String)
  | texts (ss : List String)
  | tally (ns : List Nat)
  | greetings (english german : String)
  | comparison (same equal : Bool)
  | person (v : PersonView)
  | account (v : AccountView)
  | identifiers (first second : String)
  | session (s : Serial)
  | closing (c : Closing)
  | block (inner : List Answer) (result : Except Failure Nat) (after : Option AccountView)
  | vault (v : Vault)
  | branch (b : Branch)
  | opening (b : Branch) (n : BankCounts)
  | counts (n : BankCounts)
  | bank (v : BankView)
  | ending (refs : List (String × Nat))

namespace Answer

def ofOption {α : Type} (f : α → Answer) : Option α → Answer
  | some a => f a
  | none => nothing

end Answer

/-- What came of an action: an answer or a failure, the events logged, and the state it leaves. -/
structure Outcome (σ : Type) where
  answer : Except Failure Answer
  log : List Event
  state : σ

namespace Outcome

variable {σ : Type}

def said (a : Answer) (s : σ) : Outcome σ := ⟨.ok a, [], s⟩

def logged (a : Answer) (log : List Event) (s : σ) : Outcome σ := ⟨.ok a, log, s⟩

def failure (e : Failure) (s : σ) : Outcome σ := ⟨.error e, [], s⟩

end Outcome

/-- Outcome of a request that may be turned away. -/
abbrev Reply (σ : Type) := Except Refusal (Outcome σ)

end Countinghouse
