import Countinghouse.Answer

/-! One account at the counter, with the people its customer is among and the clock on the wall. -/
namespace Countinghouse

/-- The clock counts the closings so far. -/
structure Visit where
  people : People
  account : Account
  clock : Nat
deriving DecidableEq, Repr

namespace Visit

def view (v : Visit) : AccountView where
  id := v.account.id
  identifier := v.account.identifier
  closed := v.account.isClosed
  stamped := v.account.closedAt.isSome
  session := v.account.currentSession
  customer := v.account.customer.bind v.people.view?

def customerAnswer (v : Visit) : Answer :=
  .ofOption .person (v.account.customer.bind v.people.view?)

/-- Only the first closing does anything. -/
def close (v : Visit) : Visit × List Event :=
  match v.account.session with
  | none => (v, [])
  | some _ =>
    ({ people := v.people.releaseAll v.account.partedCustomer.toList
       account := v.account.released v.clock
       clock := v.clock + 1 },
      [.accountClosed v.account.kind v.account.identifier])

/-- The new customer is held before the old one is let go. -/
def setCustomer (v : Visit) (h : Option Handle) : Visit :=
  { v with
    people := (v.people.retainAll h.toList).releaseAll v.account.customer.toList
    account := { v.account with customer := h } }

def setId (v : Visit) (id : Int64) : Visit := { v with account := { v.account with id := id } }

def renameCustomer (v : Visit) (name : String) : Visit :=
  match v.account.customer with
  | some h => { v with people := v.people.update h (Person.setName name) }
  | none => v

def closing (before after : Visit) : Closing where
  wasClosed := before.account.isClosed
  closed := after.account.isClosed
  stamped := after.account.closedAt != before.account.closedAt
  hasCustomer := after.account.customer.isSome

end Visit

/-- What can be asked of an account. -/
inductive Act
  | get
  | setId (id : Int64)
  | setCustomer (slot : Option String)
  | renameCustomer (name : String)
  | identifier
  | session
  | close
deriving DecidableEq, Repr

def Act.perform (act : Act) (v : Visit) : Reply Visit :=
  match act with
  | get => .ok (.said (.account v.view) v)
  | setId id => .ok (.said (.number (v.setId id).account.id) (v.setId id))
  | setCustomer slot =>
    (v.people.resolveOptional .customer slot).map fun h =>
      .said (v.setCustomer h).customerAnswer (v.setCustomer h)
  | renameCustomer name =>
    .ok (.said (v.renameCustomer name).customerAnswer (v.renameCustomer name))
  | identifier => .ok (.said (.identifiers v.account.identifier v.account.identifier) v)
  | session => .ok ⟨v.account.currentSession.map .session, [], v⟩
  | close => .ok (.logged (.closing (v.closing v.close.1)) v.close.2 v.close.1)

end Countinghouse
