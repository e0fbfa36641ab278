import Countinghouse.Decimal.Numeral
import Countinghouse.Event
import Countinghouse.Failure
import Countinghouse.Register

/-!
Accounts. An account holds a session from its opening until its first closing; a savings account
parts with its customer at that closing, a checking account keeps its own.
-/
namespace Countinghouse

/-- The place of an account among all that were opened; it stands for its number and session. -/
structure Serial where
  number : Nat
deriving DecidableEq, Repr

namespace Serial

def label (n : Serial) : String := "#" ++ String.ofList (Decimal.digits n.number)
def sessionLabel (n : Serial) : String := "session" ++ n.label

end Serial

structure Account where
  kind : AccountKind
  number : Serial
  id : Int64
  customer : Option Handle
  session : Option Serial
  closedAt : Option Nat
deriving DecidableEq, Repr

namespace Account

/-- A new account is open. -/
def opened (kind : AccountKind) (number : Serial) (id : Int64) (customer : Option Handle) :
    Account :=
  ⟨kind, number, id, customer, some number, none⟩

def identifier (a : Account) : String := a.kind.letters ++ "-" ++ a.number.label

def isClosed (a : Account) : Bool := a.session.isNone

def currentSession (a : Account) : Except Failure Serial :=
  match a.session with
  | some s => .ok s
  | none => .error (.accountClosed a.identifier)

/-- The customer after a closing. -/
def keptCustomer (a : Account) : Option Handle :=
  match a.kind with
  | .checking => a.customer
  | .savings => none

/-- What an account lets go of when it is closed. -/
def partedCustomer (a : Account) : Option Handle :=
  match a.kind with
  | .checking => none
  | .savings => a.customer

/-- The account after a first closing at time `now`. -/
def released (a : Account) (now : Nat) : Account :=
  { a with session := none, closedAt := some now, customer := a.keptCustomer }

def handles (a : Account) : List Handle := a.customer.toList

end Account
end Countinghouse
