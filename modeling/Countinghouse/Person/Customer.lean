import Countinghouse.Json.Codec
import Countinghouse.Json.Record
import Countinghouse.Json.Value
import Countinghouse.Language

/-! Customers, who are addressed in the languages of the house and no other. -/
namespace Countinghouse

structure Customer where
  id : Int64
  name : String
deriving DecidableEq, Repr, Inhabited

namespace Customer

def hello (c : Customer) : Language → String
  | .english => "Hello, my name is " ++ c.name ++ "."
  | .german => "Hallo, mein Name ist " ++ c.name ++ "."

def farewell : Language → String
  | .english => "Goodbye!"
  | .german => "Auf Wiedersehen!"

def goodbye (_ : Customer) (language : String) : Except Failure String :=
  (Language.ofText language).map farewell

def inspect (c : Customer) : String :=
  Text.inspectRecord "Customer"
    [("id", String.ofList (Decimal.numeral c.id.toInt)), ("name", Text.inspectText c.name)]

structure Draft where
  id : Option Int64
  name : Option String

def idField : Json.Field Draft where
  key := "id"
  isFilled d := d.id.isSome
  fill lead d := lead.int64.map fun id => { d with id := some id }

def nameField : Json.Field Draft where
  key := "name"
  isFilled d := d.name.isSome
  fill lead d := lead.string.map fun name => { d with name := some name }

def Draft.complete : Draft → Except Json.Problem Customer
  | ⟨some id, some name⟩ => .ok ⟨id, name⟩
  | ⟨none, _⟩ => .error (.missing "id")
  | ⟨_, none⟩ => .error (.missing "name")

def record : Json.Record Draft Customer where
  title := "struct Customer"
  fields := [idField, nameField]
  blank := ⟨none, none⟩
  complete := Draft.complete

def toJson (c : Customer) : Json.Value :=
  .object [("id", .int c.id.toInt), ("name", .text c.name)]

def codec : Json.Codec Customer where
  decode := Json.readAll record.read
  encode c := c.toJson.toText

end Customer
end Countinghouse
