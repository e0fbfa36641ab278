import Countinghouse.Text.Printable

/-!
Values as they are shown for inspection: text in quotes, records with their field names, lists and
optional values.
-/
namespace Countinghouse.Text

/-- Quote, backslash and what is not printable are shown by an escape, all else as it is. -/
def inspectChar (c : Char) : List Char :=
  if c = '"' then ['\\', '"']
  else if c = '\\' then ['\\', '\\']
  else if c = '\n' then ['\\', 'n']
  else if c = '\r' then ['\\', 'r']
  else if c = '\t' then ['\\', 't']
  else if c = '\x00' then ['\\', '0']
  else if isPrintable c then [c]
  else '\\' :: 'u' :: '\x7b' :: (Nat.toDigits 16 c.toNat ++ ['\x7d'])

def inspectText (s : String) : String :=
  String.ofList ('"' :: (s.toList.flatMap inspectChar ++ ['"']))

def inspectOption : Option String → String
  | none => "None"
  | some shown => "Some(" ++ shown ++ ")"

def inspectBool (b : Bool) : String := if b then "true" else "false"

def inspectList (shown : List String) : String := "[" ++ ", ".intercalate shown ++ "]"

def inspectRecord (name : String) (fields : List (String × String)) : String :=
  name ++ " \x7b " ++ ", ".intercalate (fields.map fun f => f.1 ++ ": " ++ f.2) ++ " \x7d"

example : inspectText "a\"\\\u001b\x7f" = "\"a\\\"\\\\\\u\x7b1b\x7d\\u\x7b7f\x7d\"" := by decide
example : inspectRecord "Pair" [("a", "1"), ("b", "None")] = "Pair \x7b a: 1, b: None \x7d" := by
  decide

end Countinghouse.Text
