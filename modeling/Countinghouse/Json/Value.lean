import Countinghouse.Json.Number
import Countinghouse.Json.Quoted

/-! Values of JSON and their compact text. -/
namespace Countinghouse.Json

/-- Objects keep the order of their members and may repeat keys. -/
inductive Value
  | null
  | bool (b : Bool)
  | number (n : Number)
  | text (s : String)
  | array (items : List Value)
  | object (members : List (String × Value))

def Number.ofInt (i : Int) : Number := ⟨decide (i < 0), Decimal.digits i.natAbs, [], none⟩

def Number.write (n : Number) : List Char :=
  (if n.negative then ['-'] else []) ++ n.whole ++
    (if n.fraction.isEmpty then [] else '.' :: n.fraction) ++
    match n.exponent with
    | some e => 'e' :: Decimal.numeral e
    | none => []

namespace Value

def int (i : Int) : Value := number (Number.ofInt i)

def optionalText : Option String → Value
  | some s => text s
  | none => null

mutual

/-- No space stands between the parts. -/
def write : Value → List Char
  | null => ['n', 'u', 'l', 'l']
  | bool true => ['t', 'r', 'u', 'e']
  | bool false => ['f', 'a', 'l', 's', 'e']
  | number n => n.write
  | text s => quote s.toList
  | array [] => ['[', ']']
  | array (item :: items) => '[' :: (item.write ++ writeItems items)
  | object [] => ['\x7b', '\x7d']
  | object ((key, item) :: members) =>
    '\x7b' :: (quote key.toList ++ ':' :: (item.write ++ writeMembers members))

/-- The items after the first, and the closing bracket. -/
def writeItems : List Value → List Char
  | [] => [']']
  | item :: items => ',' :: (item.write ++ writeItems items)

def writeMembers : List (String × Value) → List Char
  | [] => ['\x7d']
  | (key, item) :: members =>
    ',' :: (quote key.toList ++ ':' :: (item.write ++ writeMembers members))

end

def toText (v : Value) : String := String.ofList v.write

end Value
end Countinghouse.Json
