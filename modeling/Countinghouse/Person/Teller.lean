import Countinghouse.Json.Codec
import Countinghouse.Json.Record
import Countinghouse.Json.Value
import Countinghouse.Language

/-! Tellers, who may have a desk and answer in English where they know no better. -/
namespace Countinghouse

structure Teller where
  id : Int64
  name : String
  desk : Option String
deriving DecidableEq, Repr, Inhabited

namespace Teller

def hello (t : Teller) (language : Language) : String :=
  match language, t.desk with
  | .english, some desk => "Welcome! I'm " ++ t.name ++ ", serving you at " ++ desk ++ "."
  | .english, none => "Welcome! I'm " ++ t.name ++ "."
  | .german, some desk => "Willkommen! Ich bin " ++ t.name ++ " und bediene Sie an " ++ desk ++ "."
  | .german, none => "Willkommen! Ich bin " ++ t.name ++ "."

def farewell : Language → String
  | .english => "Thank you for banking with us. Goodbye!"
  | .german => "Vielen Dank für Ihren Besuch. Auf Wiedersehen!"

def goodbye (_ : Teller) (language : String) : String :=
  match Language.ofText language with
  | .ok known => farewell known
  | .error _ => farewell .english

def inspect (t : Teller) : String :=
  Text.inspectRecord "Teller"
    [("id", String.ofList (Decimal.numeral t.id.toInt)), ("name", Text.inspectText t.name),
      ("desk", Text.inspectOption (t.desk.map Text.inspectText))]

/-- A desk may be filled in as absent. -/
structure Draft where
  id : Option Int64
  name : Option String
  desk : Option (Option String)

def idField : Json.Field Draft where
  key := "id"
  isFilled d := d.id.isSome
  fill lead d := lead.int64.map fun id => { d with id := some id }

def nameField : Json.Field Draft where
  key := "name"
  isFilled d := d.name.isSome
  fill lead d := lead.string.map fun name => { d with name := some name }

def deskField : Json.Field Draft where
  key := "desk"
  isFilled d := d.desk.isSome
  fill lead d := lead.optionalString.map fun desk => { d with desk := some desk }

def Draft.complete : Draft → Except Json.Problem Teller
  | ⟨some id, some name, desk⟩ => .ok ⟨id, name, desk.join⟩
  | ⟨none, _, _⟩ => .error (.missing "id")
  | ⟨_, none, _⟩ => .error (.missing "name")

def record : Json.Record Draft Teller where
  title := "struct Teller"
  fields := [idField, nameField, deskField]
  blank := ⟨none, none, none⟩
  complete := Draft.complete

def toJson (t : Teller) : Json.Value :=
  .object [("id", .int t.id.toInt), ("name", .text t.name), ("desk", .optionalText t.desk)]

def codec : Json.Codec Teller where
  decode := Json.readAll record.read
  encode t := t.toJson.toText

end Teller
end Countinghouse
