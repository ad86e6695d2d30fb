import StageRelay.Http.Client
import StageRelay.Pipeline.Run

/-!
# Runs that are learnt call by call

A run needs to know what services do. Who meets the services only while the run
goes on keeps a transcript of what came of the calls so far, and replays it: the
calls in the transcript get their reactions again, and the first call after them
fails, which ends the run. If there is such a call it is pending: it is to be made,
and its reaction to be added to the transcript. If there is none the run is the
run itself.

The same goes for the requests that a client sends to follow responses.
-/

namespace StageRelay

/-- What came of the calls so far, the first call first. Services that have been called
need not be called again to go on from there. -/
abbrev Transcript := List (Reaction (Except CallError Answer))

/-- Services that do what a transcript says. A call beyond its end has an answer too,
which only says that there is none yet. -/
def Invoker.replay (t : Transcript) : Invoker := fun calls =>
  (t[calls.length - 1]?).getD ⟨.error (.transport "no answer yet"), 0, false⟩

/-- The call that comes after a transcript, if one was made. Nothing is known of later
calls, since they depend on what comes of it. -/
def Session.pending? (s : Session) (t : Transcript) : Option Call :=
  if t.length < s.calls.length then s.calls.head? else none

/-- The milliseconds that the pending call of a run may take which started at the
beginning of the session; none when it may take any time. -/
def Session.pendingLimit (s : Session) (settings : PipelineSettings) : Option Nat :=
  match settings.allowance s.nowMs with
  | .expired => some 0
  | .unlimited => none
  | .limited ms _ => some ms

/-- What came of the requests on a network so far. Requests that look the same have the
same answer here. -/
abbrev Correspondence := List (WireRequest × Option WireResponse)

/-- The network that a correspondence shows; nothing else is answered. -/
def Network.replay (c : Correspondence) : Network := fun r => (c.lookup r).join

/-- The first request of a list that a correspondence does not show, which is the next
one to be sent. -/
def Correspondence.pending? (c : Correspondence) (sent : List WireRequest) : Option WireRequest :=
  sent.find? fun r => (c.lookup r).isNone

end StageRelay
