import Countinghouse.Json.Record

/-! Values of an enumeration, spelt as a name or as an object that maps the name to null. -/
namespace Countinghouse.Json

/-- The values of an enumeration by their names. -/
abbrev Variants (α : Type) := List (String × α)

namespace Variants

variable {α : Type}

def named (vs : Variants α) (name : String) : Except Problem α :=
  match vs.lookup name with
  | some a => .ok a
  | none => .error (.unknownVariant name (vs.map (·.1)))

/-- The name inside an object is judged before what it maps to. -/
def readObject (vs : Variants α) (cs : List Char) : Except Problem (α × List Char) :=
  match nextKey cs with
  | some (.key name rest) => do
    let a ← vs.named name
    match leadAfterColon rest with
    | none => .error .malformed
    | some (.null, rest) =>
      match skipSpace rest with
      | '\x7d' :: rest => .ok (a, rest)
      | _ => .error .malformed
    | some (lead, _) => .error (.wrongType lead "unit")
  | _ => .error .malformed

def read (vs : Variants α) (cs : List Char) : Except Problem (α × List Char) :=
  match Lead.read cs with
  | some (.text name, rest) => (vs.named name).map (·, rest)
  | some (.object, rest) => vs.readObject rest
  | _ => .error .malformed

end Variants
end Countinghouse.Json
