import Countinghouse.Json.Problem

/-! A reader and a writer of one type, and what they say about a text. -/
namespace Countinghouse.Json

structure Codec (α : Type) where
  decode : String → Except Problem α
  encode : α → String

/-- A decoded value, its text, and how it compares with itself read back and with another text. -/
structure Examination (α : Type) where
  value : α
  text : String
  roundTrip : Bool
  equal : Option (Except Problem Bool)

def Codec.examine {α : Type} [DecidableEq α] (c : Codec α) (text : String)
    (other : Option String) : Except Problem (Examination α) := do
  let a ← c.decode text
  let back := match c.decode (c.encode a) with
    | .ok b => decide (a = b)
    | .error _ => false
  return ⟨a, c.encode a, back, other.map fun t => (c.decode t).map fun b => decide (a = b)⟩

end Countinghouse.Json
