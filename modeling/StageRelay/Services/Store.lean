import StageRelay.Directive
import StageRelay.Pipeline.Service
import StageRelay.Text.Utf8

/-!
# The store service

The service adds one record for each payload at the end of a file. A record is a
line break, a time stamp, a separator and the payload as text; nothing that is
there is changed. What the file is and how it is written to does not matter here:
a store is any type of states with an operation that adds a text or fails.
-/

namespace StageRelay.Store

def separator : String := " - "

/-- The record of a payload. It begins with a line break and not with one at its end, so
that a file of records begins with an empty line. -/
def record (stamp : String) (payload : ByteArray) : String :=
  "\n" ++ stamp ++ separator ++ Utf8.lossy payload

def storedStatus : Status := 201

def failedStatus : Status := 500

variable {σ ε : Type}

/-- Writes the record of a payload, and answers whether that was possible. A failure
leaves the store as it was, and why it failed is not told. -/
def handle (append : σ → String → Except ε σ) (stamp : String) (payload : ByteArray) (s : σ) :
    Answer × σ :=
  match append s (record stamp payload) with
  | .ok s => (⟨storedStatus, "stored".toUTF8⟩, s)
  | .error _ => (⟨failedStatus, "store write failed".toUTF8⟩, s)

end StageRelay.Store
