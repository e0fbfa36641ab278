import Countinghouse.Json.Codec
import Countinghouse.Json.Value
import Countinghouse.Json.Variant
import Countinghouse.Language

/-! Languages in JSON. -/
namespace Countinghouse.Language

def variants : Json.Variants Language := [("English", english), ("German", german)]

def codec : Json.Codec Language where
  decode := Json.readAll variants.read
  encode l := (Json.Value.text l.name).toText

end Countinghouse.Language
