import Countinghouse.Account.Visit

/-! The house as a whole: its people, accounts and banks. -/
namespace Countinghouse

structure World where
  people : People
  accounts : Slots Account
  banks : Slots Bank
  opened : Nat
  clock : Nat
deriving DecidableEq, Repr

namespace World

def empty : World := ⟨.empty, .empty, .empty, 0, 0⟩

/-- Closes an account for good and gives back what it still holds. -/
def discardAccount (w : World) (a : Account) : World × List Event :=
  let (v, log) := Visit.close ⟨w.people, a, w.clock⟩
  ({ w with people := v.people.releaseAll v.account.handles, clock := v.clock }, log)

/-- Nothing is logged when a bank goes. -/
def discardBank (w : World) (b : Bank) : World :=
  { w with people := w.people.releaseAll b.handles }

/-- Fills a slot; the account that it held is discarded. -/
def putAccount (w : World) (slot : String) (a : Account) : World × List Event :=
  match w.accounts.find? slot with
  | none => ({ w with accounts := w.accounts.put slot a }, [])
  | some old =>
    let (w, log) := w.discardAccount old
    ({ w with accounts := w.accounts.put slot a }, log)

def putBank (w : World) (slot : String) (b : Bank) : World :=
  match w.banks.find? slot with
  | none => { w with banks := w.banks.put slot b }
  | some old => { w.discardBank old with banks := w.banks.put slot b }

/-- Opens an account under the next serial number. -/
def openAccount (w : World) (kind : AccountKind) (id : Int64) (customer : Option Handle) :
    Account × World :=
  (.opened kind ⟨w.opened + 1⟩ id customer,
    { w with people := w.people.retainAll customer.toList, opened := w.opened + 1 })

def visit? (w : World) (slot : String) : Option Visit :=
  (w.accounts.find? slot).map fun a => ⟨w.people, a, w.clock⟩

/-- Takes back an account after a visit. -/
def afterVisit (w : World) (slot : String) (v : Visit) : World :=
  { w with people := v.people, accounts := w.accounts.put slot v.account, clock := v.clock }

/-- Puts a changed bank back into its slot. -/
def setBank (w : World) (slot : String) (b : Bank) : World :=
  { w with banks := w.banks.put slot b }

def bank (w : World) (slot : String) : Except Refusal Bank :=
  match w.banks.find? slot with
  | some b => .ok b
  | none => .error .noSuchSlot

def visit (w : World) (slot : String) : Except Refusal Visit :=
  match w.visit? slot with
  | some v => .ok v
  | none => .error .noSuchSlot

def bankView (w : World) (b : Bank) : BankView :=
  ⟨b, b.customer.bind w.people.view?, b.teller.bind w.people.view?⟩

def personAnswer (w : World) (h : Option Handle) : Answer :=
  .ofOption .person (h.bind w.people.view?)

end World
end Countinghouse
