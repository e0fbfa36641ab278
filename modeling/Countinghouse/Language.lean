import Countinghouse.Failure
import Countinghouse.Text.Blank
import Countinghouse.Text.LowerCase

/-! The two languages of the house and the words that name them. -/
namespace Countinghouse

inductive Language
  | english
  | german
deriving DecidableEq, Repr

namespace Language

def name : Language → String
  | english => "English"
  | german => "German"

/-- Names and codes in lower case. -/
def words : List (List Char × Language) :=
  [(['e', 'n', 'g', 'l', 'i', 's', 'h'], english), (['e', 'n'], english),
    (['g', 'e', 'r', 'm', 'a', 'n'], german), (['d', 'e'], german),
    (['d', 'e', 'u', 't', 's', 'c', 'h'], german)]

def ofWord? (word : List Char) : Option Language := words.lookup word

/-- White space around the word and the case of its letters do not matter. -/
def named? (text : String) : Option Language := ofWord? (Text.lower (Text.trim text.toList))

/-- A refusal carries the text as it was given. -/
def ofText (text : String) : Except Failure Language :=
  match named? text with
  | some language => .ok language
  | none => .error (.unsupportedLanguage text)

example : named? "\u00a0DeutscH\n" = some german := by decide
example : ofText " fr " = .error (.unsupportedLanguage " fr ") := rfl

end Language
end Countinghouse
