import Countinghouse.Person.Customer
import Countinghouse.Person.Teller

/-! People of the house: customers and tellers. -/
namespace Countinghouse

inductive PersonKind
  | customer
  | teller
deriving DecidableEq, Repr

inductive Person
  | customer (c : Customer)
  | teller (t : Teller)
deriving DecidableEq, Repr

namespace Person

def kind : Person → PersonKind
  | customer _ => .customer
  | teller _ => .teller

def id : Person → Int64
  | customer c => c.id
  | teller t => t.id

def name : Person → String
  | customer c => c.name
  | teller t => t.name

/-- Customers have no desk. -/
def desk : Person → Option String
  | customer _ => none
  | teller t => t.desk

def setId (id : Int64) : Person → Person
  | customer c => customer { c with id := id }
  | teller t => teller { t with id := id }

def setName (name : String) : Person → Person
  | customer c => customer { c with name := name }
  | teller t => teller { t with name := name }

def setDesk (desk : Option String) : Person → Person
  | customer c => customer c
  | teller t => teller { t with desk := desk }

def hello (language : Language) : Person → String
  | customer c => c.hello language
  | teller t => t.hello language

def goodbye (language : String) : Person → Except Failure String
  | customer c => c.goodbye language
  | teller t => .ok (t.goodbye language)

def encode : Person → String
  | customer c => Customer.codec.encode c
  | teller t => Teller.codec.encode t

def inspect : Person → String
  | customer c => c.inspect
  | teller t => t.inspect

@[simp] theorem kind_setId (id : Int64) (p : Person) : (p.setId id).kind = p.kind := by
  cases p <;> rfl
@[simp] theorem kind_setName (name : String) (p : Person) : (p.setName name).kind = p.kind := by
  cases p <;> rfl
@[simp] theorem kind_setDesk (desk : Option String) (p : Person) :
    (p.setDesk desk).kind = p.kind := by
  cases p <;> rfl

end Person
end Countinghouse
