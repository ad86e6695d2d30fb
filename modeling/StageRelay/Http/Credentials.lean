import StageRelay.Http.Url
import StageRelay.Text.Base64

/-!
# Credentials

A URL may have a user name and a password before its host. They are not sent as part
of the URL, but in a field of their own, and no message shows them.
-/

namespace StageRelay

structure Credentials where
  username : String
  password : Option String
deriving DecidableEq, Repr

/-- The value of the field that sends credentials. -/
def Credentials.fieldValue (c : Credentials) : String :=
  "Basic " ++ String.ofList (Base64.encode
    (c.username ++ ":" ++ c.password.getD "").toUTF8.data.toList)

namespace Url

/-- What a text in encoded form stands for, if the bytes that it stands for are text. -/
def decoded? (s : String) : Option String :=
  String.fromUTF8? (Percent.decodeBytes s.toUTF8.data.toList).toByteArray

/-- The credentials of a URL. There are none if the user name is not text; a password
that is not text is passed over. -/
def credentials? (u : Url) : Option Credentials := do
  let username ← decoded? u.username
  let password := if u.password = "" then none else decoded? u.password
  if username = "" ∧ password = none then none else some ⟨username, password⟩

def withoutUser (u : Url) : Url := { u with username := "", password := "" }

/-- The URL as it is sent. Credentials that can be sent on their own are left out of it,
and those that cannot stay where they are. -/
def sent (u : Url) : Url := if u.credentials?.isSome then u.withoutUser else u

end Url

end StageRelay
