import StageRelay.Pipeline.Plan
import StageRelay.Pipeline.Service

/-!
# Runs

A run takes a payload through the stages of a queue, one after the other. Each
answer with a body replaces the payload, and the routing table of the stage
decides by the status whether the run goes on or the request is rejected. A
stage that gives no answer, an answer without a directive, a limit that is
reached and a cancellation abort the run.

Time is counted in milliseconds on the clock of a `Session`, which also keeps
the calls that were made and the instant at which the run is cancelled. Before
each stage the cancellation is looked at first and the deadline second. A stage
may take until the end of its allowance: an answer at that very instant still
counts. A cancellation ends a stage when it comes before the stage would end.
-/

namespace StageRelay

/-- What is handed from one stage to the next: the payload, and the status of the last
stage. There is no such status before the first stage. -/
structure Carried where
  payload : ByteArray
  lastStatus : Option Status
deriving DecidableEq

namespace Carried

def start (payload : ByteArray) : Carried := ⟨payload, none⟩

/-- What is handed on after an answer. Only a body that is not empty replaces the
payload, while the status is kept in any case. -/
def absorb (c : Carried) (a : Answer) : Carried :=
  ⟨if a.hasBody then a.body else c.payload, some a.status⟩

end Carried

/-- What happened in one stage. There is a record for each stage whose answer had a
directive, also for the one that rejected the request. -/
structure StageRecord where
  extension : String
  status : Status
  directive : Directive
  payloadReplaced : Bool
  elapsedMs : Nat
deriving DecidableEq, Repr, Inhabited

inductive Outcome where
  /-- Every stage forwarded. -/
  | completed (payload : ByteArray) (status : Status)
  /-- A stage rejected the request. -/
  | rejected (extension : String) (stageStatus : Status)
deriving DecidableEq

structure Run where
  route : String
  outcome : Outcome
  stages : List StageRecord
deriving DecidableEq

inductive Phase where
  | completed
  | errored
deriving DecidableEq, Repr

def Phase.name : Phase → String
  | .completed => "completed"
  | .errored => "errored"

namespace Outcome

def phase : Outcome → Phase
  | .completed .. => .completed
  | .rejected .. => .errored

def rejectionStatus : Status := 400

def rejectionBody : ByteArray := "Request rejected by extension processing.".toUTF8

/-- The status to answer with. A rejection has its own, whatever the service that
rejected the request had answered. -/
def status : Outcome → Status
  | .completed _ s => s
  | .rejected .. => rejectionStatus

def body : Outcome → ByteArray
  | .completed payload _ => payload
  | .rejected .. => rejectionBody

def isRejected : Outcome → Bool
  | .completed .. => false
  | .rejected .. => true

end Outcome

/-- What runs leave behind: the calls made, latest first, the time, and the
instant of cancellation if there is one. -/
structure Session where
  calls : List Call
  nowMs : Nat
  cancelAtMs : Option Nat
deriving DecidableEq

namespace Session

def start (cancelAtMs : Option Nat) : Session := ⟨[], 0, cancelAtMs⟩

/-- Whether the run is cancelled by now. The instant of cancellation itself belongs to
the time after it. -/
def isCancelled (s : Session) : Bool := s.cancelAtMs.any (· ≤ s.nowMs)

end Session

/-- The time that the next stage may take. -/
inductive Allowance where
  /-- None: the deadline is over. -/
  | expired
  | unlimited
  /-- Some milliseconds; `byDeadline` when it is the deadline that sets them. -/
  | limited (ms : Nat) (byDeadline : Bool)
deriving DecidableEq, Repr

/-- The time that a stage may take which starts some milliseconds into the run.
Of a timeout and a deadline the shorter one counts, and the timeout when they
are equal. -/
def PipelineSettings.allowance (s : PipelineSettings) (elapsedMs : Nat) : Allowance :=
  match s.deadlineMs, s.stageTimeout with
  | none, none => .unlimited
  | none, some t => .limited t false
  | some d, none => if d ≤ elapsedMs then .expired else .limited (d - elapsedMs) true
  | some d, some t =>
    if d ≤ elapsedMs then .expired
    else if d - elapsedMs < t then .limited (d - elapsedMs) true
    else .limited t false

/-- How a call ends. A cancellation counts only if it comes before the end, and a limit
only once it is exceeded. -/
inductive Ending where
  | answered (a : Answer)
  | failed (e : CallError)
  /-- The allowance is used up. -/
  | timedOut
  | cancelled
deriving DecidableEq

/-- Makes a call that may take a number of milliseconds, if it is limited. The call
counts as made however it ends, and the time goes on to its end or to the
cancellation. -/
def Session.call (s : Session) (invoke : Invoker) (limit : Option Nat) (c : Call) :
    Ending × Session :=
  let calls := c :: s.calls
  let reaction := invoke calls
  let cancelAt := if reaction.cancels then some (s.cancelAtMs.elim s.nowMs (min s.nowMs))
    else s.cancelAtMs
  let inTime := limit.all (reaction.durationMs ≤ ·)
  let finish := s.nowMs + (if inTime then reaction.durationMs else limit.getD 0)
  match cancelAt.filter (· < finish) with
  | some instant => (.cancelled, ⟨calls, max s.nowMs instant, cancelAt⟩)
  | none =>
    let session : Session := ⟨calls, finish, cancelAt⟩
    if inTime then
      match reaction.result with
      | .ok a => (.answered a, session)
      | .error e => (.failed e, session)
    else (.timedOut, session)

namespace Stage

/-- The error of a stage whose call cannot be made or answered. It is the
configuration's fault if the call cannot be made at all, and otherwise the service's. -/
def callError (stage : Stage) : CallError → PipelineError
  | .invalidRequest reason =>
    .config (.invalid s!"extension '{stage.name}' has an unusable service: {reason}")
  | .transport reason =>
    .serviceUnavailable stage.name stage.service.uri s!"transport failure: {reason}"

def deadlineError (stage : Stage) (settings : PipelineSettings) : PipelineError :=
  .deadlineExceeded stage.name (settings.deadlineMs.getD 0)

def timeoutError (stage : Stage) (ms : Nat) : PipelineError :=
  .serviceUnavailable stage.name stage.service.uri s!"timed out after {ms}ms"

/-- What becomes of an answer: the directive for its status. -/
def route (stage : Stage) (status : Status) : Except ConfigError Directive :=
  match stage.routing.resolve status with
  | some d => .ok d
  | none => .error (.unroutedStatus stage.name status)

/-- The answer of a stage that starts some milliseconds into the run, or the error that
aborts the run. No call is made when the run is cancelled or its time is over. -/
def answer (stage : Stage) (settings : PipelineSettings) (invoke : Invoker) (elapsedMs : Nat)
    (payload : ByteArray) (s : Session) : Except PipelineError Answer × Session :=
  if s.isCancelled then (.error (.cancelled stage.name), s)
  else
    let call : Call := ⟨stage.service, payload⟩
    match settings.allowance elapsedMs with
    | .expired => (.error (stage.deadlineError settings), s)
    | .unlimited => finish (s.call invoke none call) (stage.deadlineError settings)
    | .limited ms byDeadline =>
      finish (s.call invoke (some ms) call)
        (if byDeadline then stage.deadlineError settings else stage.timeoutError ms)
where
  /-- The answer or error that an ending stands for. -/
  finish (e : Ending × Session) (late : PipelineError) : Except PipelineError Answer × Session :=
    match e with
    | (.answered a, s) => (.ok a, s)
    | (.failed err, s) => (.error (stage.callError err), s)
    | (.timedOut, s) => (.error late, s)
    | (.cancelled, s) => (.error (.cancelled stage.name), s)

end Stage

namespace Pipeline

variable (settings : PipelineSettings) (invoke : Invoker)

/-- Takes what is carried through the stages of a queue. The run started at `startMs`;
the records are those of the stages that gave a directive. The recursion follows the
queue, and stops at the first stage that does not forward. -/
def runStages (startMs : Nat) :
    List Stage → Carried → Session → Except PipelineError (Outcome × List StageRecord) × Session
  | [], c, s =>
    (.ok (.completed c.payload (c.lastStatus.getD settings.emptyQueueStatus), []), s)
  | stage :: queue, c, s =>
    match stage.answer settings invoke (s.nowMs - startMs) c.payload s with
    | (.error e, s') => (.error e, s')
    | (.ok a, s') =>
      match stage.route a.status with
      | .error e => (.error (.config e), s')
      | .ok d =>
        let record : StageRecord := ⟨stage.name, a.status, d, a.hasBody, s'.nowMs - s.nowMs⟩
        match d with
        | .terminate => (.ok (.rejected stage.name a.status, [record]), s')
        | .forward =>
          match runStages startMs queue (c.absorb a) s' with
          | (.ok (outcome, records), s'') => (.ok (outcome, record :: records), s'')
          | (.error e, s'') => (.error e, s'')

/-- Runs a queue from a payload. The session is handed back also when the run is
aborted, as it tells which calls have been made. -/
def execute (route : String) (queue : List Stage) (payload : ByteArray) (s : Session) :
    Except PipelineError Run × Session :=
  match runStages settings invoke s.nowMs queue (.start payload) s with
  | (.ok (outcome, records), s) => (.ok ⟨route, outcome, records⟩, s)
  | (.error e, s) => (.error e, s)

/-- Plans and runs a request. A request without a plan calls no service and takes no
time. -/
def handle (p : Pipeline) (evaluate : Evaluator) (invoke : Invoker) (request : Request)
    (s : Session) : Except PipelineError Run × Session :=
  match (p.plan evaluate request).answer with
  | .error e => (.error e, s)
  | .ok plan => execute p.settings invoke plan.route plan.queue request.payload s

end Pipeline

end StageRelay
