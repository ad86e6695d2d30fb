import StageRelay.Http.Target
import StageRelay.Request
import StageRelay.Text.Digits

/-!
# Inbound requests

A request as it arrives over HTTP, and the request of the pipeline that it
becomes. Fields of one name are joined into one header, in the order of their
arrival; values that cannot be shown as text are left out, and a name without
any other value is left out with them.
-/

namespace StageRelay

structure Inbound where
  method : String
  target : Http.Target
  /-- The fields in the order of their arrival, with names in any case. -/
  fields : List (String × ByteArray)
  body : ByteArray

namespace Inbound

/-- What stands between values of fields of one name. -/
def valueSeparator : String := ", "

/-- The headers with one more field. Names are folded to lower case, a field of the same
name is joined to those before it, and a value that is not visible text is dropped. -/
def addField (headers : SortedMap String String) (field : String × ByteArray) :
    SortedMap String String :=
  match Http.visibleText? field.2 with
  | none => headers
  | some value =>
    let name := Ascii.lower field.1
    headers.insert name
      (match headers.get? name with
        | none => value
        | some earlier => earlier ++ valueSeparator ++ value)

def headersOf (fields : List (String × ByteArray)) : SortedMap String String :=
  fields.foldl addField .empty

/-- The request of the pipeline. -/
def toRequest (r : Inbound) : Request :=
  { Request.make r.method r.target.uri with
    headers := headersOf r.fields
    payload := r.body }

/-- The value of the first field of a name, given in lower case. Further fields of the
name are not looked at. -/
def first? (r : Inbound) (name : String) : Option ByteArray :=
  (r.fields.find? fun f => Ascii.lower f.1 == name).map Prod.snd

/-- The length that the request says its body has, if it says so in a way that can be
read. What cannot be read as a number counts as nothing said. -/
def declaredLength? (r : Inbound) : Option Nat := do
  Text.natural? UInt64.size (← Http.visibleText? (← r.first? "content-length")).toList

end Inbound

end StageRelay
