import Countinghouse.Json.Lead

/-! What can be wrong with a text that is read as a value of a known shape. -/
namespace Countinghouse.Json

inductive Problem
  | malformed
  | wrongType (found : Lead) (expected : String)
  | outOfRange (n : Int)
  | unknownVariant (name : String) (known : List String)
  | duplicate (key : String)
  | missing (key : String)
  | tooShort (length : Nat) (title : String) (size : Nat)
  | unreadable

namespace Problem

def ticked (s : String) : String := "`" ++ s ++ "`"

def alternatives : List String → String
  | [a, b] => ticked a ++ " or " ++ ticked b
  | known => "one of " ++ ", ".intercalate (known.map ticked)

def count (n : Nat) : String := String.ofList (Decimal.digits n)

/-- Malformed text, and text of another standard that cannot be read, are not described. -/
def message? : Problem → Option String
  | malformed => none
  | wrongType found expected =>
    some ("invalid type: " ++ found.describe ++ ", expected " ++ expected)
  | outOfRange n =>
    some ("invalid value: integer " ++ ticked (String.ofList (Decimal.numeral n)) ++
      ", expected i64")
  | unknownVariant name known =>
    some ("unknown variant " ++ ticked name ++ ", expected " ++ alternatives known)
  | duplicate key => some ("duplicate field " ++ ticked key)
  | missing key => some ("missing field " ++ ticked key)
  | tooShort length title size =>
    some ("invalid length " ++ count length ++ ", expected " ++ title ++ " with " ++ count size ++
      " elements")
  | unreadable => none

def isSyntactic : Problem → Bool
  | malformed => true
  | _ => false

end Problem

namespace Lead

def int64 : Lead → Except Problem Int64
  | number (.whole n) =>
    if Int64.minValue.toInt ≤ n ∧ n ≤ Int64.maxValue.toInt then .ok (Int64.ofInt n)
    else .error (.outOfRange n)
  | lead => .error (.wrongType lead "i64")

def string : Lead → Except Problem String
  | text s => .ok s
  | lead => .error (.wrongType lead "a string")

def optionalString : Lead → Except Problem (Option String)
  | null => .ok none
  | lead => lead.string.map some

/-- A string that spells a value of another standard. -/
def spelled {α : Type} (spell : List Char → Option α) (expected : String) :
    Lead → Except Problem α
  | text s =>
    match spell s.toList with
    | some a => .ok a
    | none => .error .unreadable
  | lead => .error (.wrongType lead expected)

end Lead
end Countinghouse.Json
