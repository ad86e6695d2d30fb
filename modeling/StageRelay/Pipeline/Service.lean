import StageRelay.Bytes
import StageRelay.Extension

/-!
# Calls to services

A stage calls a service with a payload and gets an answer or an error. How
services behave is an `Invoker`: a function of all calls made so far, so a
service may answer each call differently, and may take its time over it. While
it is called a service may also ask for the cancellation of the run.
-/

namespace StageRelay

structure Answer where
  status : Status
  body : ByteArray
deriving DecidableEq, Inhabited

structure Call where
  service : Service
  payload : ByteArray
deriving DecidableEq, Inhabited

inductive CallError where
  /-- The call cannot be made at all. -/
  | invalidRequest (reason : String)
  | transport (reason : String)
deriving DecidableEq, Repr

/-- What comes of a call: a result, after some milliseconds. The services may also
cancel the run, which takes effect while the call is under way. -/
structure Reaction (α : Type) where
  result : α
  durationMs : Nat
  /-- Whether the run is cancelled when the call arrives. -/
  cancels : Bool
deriving DecidableEq

def Reaction.map {α β : Type} (f : α → β) (r : Reaction α) : Reaction β :=
  ⟨f r.result, r.durationMs, r.cancels⟩

/-- The behaviour of services: what comes of the latest of some calls, the latest first.
An answer may depend on everything that was asked before, and two calls that look the
same may have different answers. -/
abbrev Invoker := List Call → Reaction (Except CallError Answer)

def Answer.hasBody (a : Answer) : Bool := !a.body.isEmpty

end StageRelay
