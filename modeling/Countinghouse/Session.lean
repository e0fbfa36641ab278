import Countinghouse.Json.Codec
import Countinghouse.Json.Record
import Countinghouse.Json.Value
import Countinghouse.Session.Token
import Countinghouse.Time.Instant

/-! Sessions as they are handed out in writing: a token and the time of opening. -/
namespace Countinghouse

structure Session where
  token : Token
  openedAt : Time.Instant
deriving DecidableEq, Repr

namespace Session

structure Draft where
  token : Option Token
  openedAt : Option Time.Instant

def tokenField : Json.Field Draft where
  key := "token"
  isFilled d := d.token.isSome
  fill lead d := do
    let token ← lead.spelled Token.ofText? "a formatted UUID string"
    return { d with token := some token }

def openedAtField : Json.Field Draft where
  key := "opened_at"
  isFilled d := d.openedAt.isSome
  fill lead d := do
    let t ← lead.spelled Time.Instant.ofText? "an RFC 3339 formatted date and time string"
    return { d with openedAt := some t }

def Draft.complete : Draft → Except Json.Problem Session
  | ⟨some token, some openedAt⟩ => .ok ⟨token, openedAt⟩
  | ⟨none, _⟩ => .error (.missing "token")
  | ⟨_, none⟩ => .error (.missing "opened_at")

def record : Json.Record Draft Session where
  title := "struct Session"
  fields := [tokenField, openedAtField]
  blank := ⟨none, none⟩
  complete := Draft.complete

def toJson (s : Session) : Json.Value :=
  .object [("token", .text (String.ofList s.token.text)),
    ("opened_at", .text (String.ofList s.openedAt.text))]

def codec : Json.Codec Session where
  decode := Json.readAll record.read
  encode s := s.toJson.toText

end Session
end Countinghouse
