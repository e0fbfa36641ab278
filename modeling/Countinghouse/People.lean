import Countinghouse.Register
import Countinghouse.Slots

/-! People who are known by name, over the register of all who are held. -/
namespace Countinghouse

/-- Why a request is turned away before anything is done. -/
inductive Refusal
  | badInput
  | noSuchSlot
  | wrongKind
deriving DecidableEq, Repr

/-- A person as seen through a handle: its value, the names that share it, and its holders. -/
structure PersonView where
  person : Person
  slots : List String
  refs : Nat
deriving DecidableEq, Repr

structure People where
  register : Register
  slots : Slots Handle
deriving DecidableEq, Repr

namespace People

def empty : People := ⟨.empty, .empty⟩

def person? (p : People) (h : Handle) : Option Person := p.register.person? h

def view? (p : People) (h : Handle) : Option PersonView :=
  (p.person? h).map fun person => ⟨person, p.slots.namesOf (· == h), p.register.refs h⟩

/-- The handle in a slot and the person behind it. -/
def resolve (p : People) (slot : String) : Except Refusal (Handle × Person) :=
  match p.slots.find? slot with
  | some h =>
    match p.person? h with
    | some person => .ok (h, person)
    | none => .error .noSuchSlot
  | none => .error .noSuchSlot

/-- The handle in a slot that must hold a person of this kind. -/
def resolveKind (p : People) (kind : PersonKind) (slot : String) : Except Refusal Handle :=
  match p.resolve slot with
  | .ok (h, person) => if person.kind = kind then .ok h else .error .wrongKind
  | .error r => .error r

def resolveOptional (p : People) (kind : PersonKind) :
    Option String → Except Refusal (Option Handle)
  | some slot => (p.resolveKind kind slot).map some
  | none => .ok none

def retainAll (p : People) (hs : List Handle) : People :=
  { p with register := p.register.retainAll hs }

def releaseAll (p : People) (hs : List Handle) : People :=
  { p with register := p.register.releaseAll hs }

def update (p : People) (h : Handle) (f : Person → Person) : People :=
  { p with register := p.register.update h f }

/-- Puts a handle that is already held for the slot, and lets go of what the slot held before. -/
def put (p : People) (slot : String) (h : Handle) : People :=
  let displaced := (p.slots.find? slot).toList
  { p.releaseAll displaced with slots := p.slots.put slot h }

def clear (p : People) (slot : String) : People :=
  let displaced := (p.slots.find? slot).toList
  { p.releaseAll displaced with slots := p.slots.clear slot }

/-- Enters a new person under a name. -/
def introduce (p : People) (slot : String) (person : Person) : Handle × People :=
  let (h, register) := p.register.enter person
  (h, { p with register := register }.put slot h)

end People
end Countinghouse
