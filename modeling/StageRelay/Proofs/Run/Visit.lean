import StageRelay.Pipeline.Run

/-!
# Visits

A `Visit` is a stage as a run meets it: with the payload that it would be sent,
the milliseconds that the run has taken so far, and the session. What becomes of
a visit is said here by comparing instants, without the functions of the run.

A visit starts a call unless the run is cancelled or its deadline is over. The
call is over when the service answers or when the limit is reached, whichever is
sooner, and it is disturbed by a cancellation before that. An answer leads to a
directive or to none. `Visit.directs_or_fails` says that these are all the cases: a
stage gives a directive, or it fails in one of the ways of `Visit.Fails`.
-/

namespace StageRelay

namespace PipelineSettings

/-- The milliseconds that a stage may take which starts some milliseconds into the
run: the shorter of the stage timeout and of what is left until the deadline. -/
def limit? (s : PipelineSettings) (elapsedMs : Nat) : Option Nat :=
  Option.merge min s.stageTimeout (s.deadlineMs.map (· - elapsedMs))

/-- What is left until the deadline is less than the stage timeout. Then a call that takes too long
is the fault of the deadline. -/
def DeadlineFirst (s : PipelineSettings) (elapsedMs : Nat) : Prop :=
  ∃ d, s.deadlineMs = some d ∧ ∀ t, s.stageTimeout = some t → d - elapsedMs < t

variable {s : PipelineSettings} {elapsedMs d l : Nat}

theorem stageTimeout_eq_some {t : Nat} :
    s.stageTimeout = some t ↔ s.stageTimeoutMs = some t ∧ 0 < t := by
  simp [stageTimeout, Option.filter_eq_some_iff]

theorem allowance_of_deadline_le (hd : s.deadlineMs = some d) (h : d ≤ elapsedMs) :
    s.allowance elapsedMs = .expired := by
  cases ht : s.stageTimeout <;> simp [allowance, hd, ht, h]

theorem allowance_of_limit?_none (h : s.limit? elapsedMs = none) :
    s.allowance elapsedMs = .unlimited := by
  obtain ⟨ht, hd⟩ := Option.merge_eq_none_iff.mp h
  rw [Option.map_eq_none_iff] at hd
  simp [allowance, hd, ht]

theorem allowance_of_deadlineFirst (hopen : ∀ d, s.deadlineMs = some d → elapsedMs < d)
    (hl : s.limit? elapsedMs = some l) (hfirst : s.DeadlineFirst elapsedMs) :
    s.allowance elapsedMs = .limited l true := by
  obtain ⟨d, hd, hlt⟩ := hfirst
  have hnot : ¬ d ≤ elapsedMs := Nat.not_le.mpr (hopen d hd)
  cases ht : s.stageTimeout with
  | none =>
      have hl' : d - elapsedMs = l := by simpa [limit?, hd, ht] using hl
      simp [allowance, hd, ht, hnot, hl']
  | some t =>
      have hshort : d - elapsedMs < t := hlt t ht
      have hl' : min t (d - elapsedMs) = l := by simpa [limit?, hd, ht] using hl
      have hl'' : d - elapsedMs = l := by omega
      simp [allowance, hd, ht, hnot, hshort, ← hl'']

theorem stageTimeout_of_not_deadlineFirst (hl : s.limit? elapsedMs = some l)
    (hfirst : ¬ s.DeadlineFirst elapsedMs) : s.stageTimeout = some l := by
  cases ht : s.stageTimeout with
  | none =>
      cases hd : s.deadlineMs with
      | none => simp [limit?, hd, ht] at hl
      | some d => exact absurd ⟨d, hd, by simp [ht]⟩ hfirst
  | some t =>
      cases hd : s.deadlineMs with
      | none => simpa [limit?, hd, ht] using hl
      | some d =>
          have hlong : ¬ d - elapsedMs < t := fun hlt =>
            hfirst ⟨d, hd, fun t' ht' => by rw [ht] at ht'; cases ht'; exact hlt⟩
          have hl' : min t (d - elapsedMs) = l := by simpa [limit?, hd, ht] using hl
          rw [show t = l by omega]

theorem allowance_of_not_deadlineFirst (hopen : ∀ d, s.deadlineMs = some d → elapsedMs < d)
    (hl : s.limit? elapsedMs = some l) (hfirst : ¬ s.DeadlineFirst elapsedMs) :
    s.allowance elapsedMs = .limited l false := by
  have ht := stageTimeout_of_not_deadlineFirst hl hfirst
  cases hd : s.deadlineMs with
  | none => simp [allowance, hd, ht]
  | some d =>
      have hnot : ¬ d ≤ elapsedMs := Nat.not_le.mpr (hopen d hd)
      have hlong : ¬ d - elapsedMs < l := fun hlt =>
        hfirst ⟨d, hd, fun t' ht' => by rw [ht] at ht'; cases ht'; exact hlt⟩
      simp [allowance, hd, ht, hnot, hlong]

end PipelineSettings

/-- A stage as a run meets it: with the payload, the time and the calls that the stages before it
have left. What comes of it is decided by this and by the services. -/
structure Visit where
  stage : Stage
  /-- The payload that the service is to be sent. -/
  payload : ByteArray
  /-- The milliseconds since the run began. -/
  elapsedMs : Nat
  /-- The session before the call. -/
  session : Session

namespace Visit

variable (settings : PipelineSettings) (invoke : Invoker) (v : Visit)

def call : Call := ⟨v.stage.service, v.payload⟩

def reaction : Reaction (Except CallError Answer) := invoke (v.call :: v.session.calls)

def durationMs : Nat := (v.reaction invoke).durationMs

def answerMs : Nat := v.session.nowMs + v.durationMs invoke

/-- The time after which the call is over, be it answered or at its limit. A cancellation may end it
before. -/
def spanMs : Nat :=
  (settings.limit? v.elapsedMs).elim (v.durationMs invoke) (min (v.durationMs invoke))

def endMs : Nat := v.session.nowMs + v.spanMs settings invoke

/-- The instant of the cancellation once the call is made, for which the service
may have asked. -/
def cancelAtMs : Option Nat :=
  if (v.reaction invoke).cancels then
    some (v.session.cancelAtMs.elim v.session.nowMs (min v.session.nowMs))
  else v.session.cancelAtMs

/-- The session in which a visit ends at an instant. -/
def leave (instant : Nat) : Session := ⟨v.call :: v.session.calls, instant, v.cancelAtMs invoke⟩

def after : Session := v.leave invoke (v.answerMs invoke)

def answer? : Option Answer := (v.reaction invoke).result.toOption

/-- The payload after the answer. Without a body in the answer, or without an answer at all, it
stays as it was. -/
def payloadAfter : ByteArray :=
  match v.answer? invoke with
  | some a => if a.hasBody then a.body else v.payload
  | none => v.payload

def record (d : Directive) (a : Answer) : StageRecord :=
  ⟨v.stage.name, a.status, d, a.hasBody, v.durationMs invoke⟩

/-- The call is made: the run is not cancelled, and its deadline is not over. -/
structure Starts : Prop where
  not_cancelled : v.session.isCancelled = false
  before_deadline : ∀ d, settings.deadlineMs = some d → v.elapsedMs < d

def WithinLimit : Prop := ∀ l, settings.limit? v.elapsedMs = some l → v.durationMs invoke ≤ l

/-- The run is not cancelled before the call is over. A cancellation at that very instant is too
late. -/
def Undisturbed : Prop := ∀ c, v.cancelAtMs invoke = some c → v.endMs settings invoke ≤ c

/-- The call is made and is over because the service answered or failed. -/
structure InTime : Prop extends v.Starts settings where
  within : v.WithinLimit settings invoke
  undisturbed : v.Undisturbed settings invoke

/-- The stage returns an answer in time, and its routing table has a directive for
the status. -/
structure Directs (d : Directive) (a : Answer) : Prop extends v.InTime settings invoke where
  result : (v.reaction invoke).result = .ok a
  routed : v.stage.routing.resolve a.status = some d

/-- The stage returns in time a status that leads on to the next stage. -/
def Forwards : Prop := ∃ a, v.Directs settings invoke .forward a

/-- The ways in which a visit aborts the run, with the error and the session. -/
inductive Fails (settings : PipelineSettings) (invoke : Invoker) (v : Visit) :
    PipelineError → Session → Prop where
  /-- The run is cancelled when the stage is met. -/
  | cancelledBefore (h : v.session.isCancelled = true) :
      Fails settings invoke v (.cancelled v.stage.name) v.session
  /-- The deadline is over when the stage is met. -/
  | deadlineOver {d : Nat} (hc : v.session.isCancelled = false)
      (hd : settings.deadlineMs = some d) (h : d ≤ v.elapsedMs) :
      Fails settings invoke v (.deadlineExceeded v.stage.name d) v.session
  /-- The run is cancelled before the call is over. -/
  | cancelledMeanwhile {c : Nat} (hs : v.Starts settings) (hc : v.cancelAtMs invoke = some c)
      (h : c < v.endMs settings invoke) :
      Fails settings invoke v (.cancelled v.stage.name) (v.leave invoke c)
  /-- The call reaches its limit, which is set by the deadline. -/
  | deadlineReached {d : Nat} (hs : v.Starts settings) (hu : v.Undisturbed settings invoke)
      (hw : ¬ v.WithinLimit settings invoke) (hd : settings.deadlineMs = some d)
      (hf : settings.DeadlineFirst v.elapsedMs) :
      Fails settings invoke v (.deadlineExceeded v.stage.name d)
        (v.leave invoke (v.endMs settings invoke))
  /-- The call reaches its limit, which is set by the stage timeout. -/
  | timedOut {t : Nat} (hs : v.Starts settings) (hu : v.Undisturbed settings invoke)
      (hw : ¬ v.WithinLimit settings invoke) (ht : settings.stageTimeout = some t)
      (hf : ¬ settings.DeadlineFirst v.elapsedMs) :
      Fails settings invoke v
        (.serviceUnavailable v.stage.name v.stage.service.uri s!"timed out after {t}ms")
        (v.leave invoke (v.endMs settings invoke))
  /-- The service is not reached. -/
  | unreachable {reason : String} (ht : v.InTime settings invoke)
      (hr : (v.reaction invoke).result = .error (.transport reason)) :
      Fails settings invoke v
        (.serviceUnavailable v.stage.name v.stage.service.uri s!"transport failure: {reason}")
        (v.after invoke)
  /-- The call cannot be made as the service is configured. -/
  | unusable {reason : String} (ht : v.InTime settings invoke)
      (hr : (v.reaction invoke).result = .error (.invalidRequest reason)) :
      Fails settings invoke v
        (.config (.invalid s!"extension '{v.stage.name}' has an unusable service: {reason}"))
        (v.after invoke)
  /-- The routing table has no directive for the status. -/
  | unrouted {a : Answer} (ht : v.InTime settings invoke)
      (hr : (v.reaction invoke).result = .ok a)
      (hn : v.stage.routing.resolve a.status = none) :
      Fails settings invoke v (.config (.unroutedStatus v.stage.name a.status)) (v.after invoke)

variable {settings : PipelineSettings} {invoke : Invoker} {v : Visit} {d : Directive} {a : Answer}

/-! ## Instants -/

theorem endMs_of_within (h : v.WithinLimit settings invoke) :
    v.endMs settings invoke = v.answerMs invoke := by
  cases hl : settings.limit? v.elapsedMs with
  | none => simp [endMs, spanMs, answerMs, hl]
  | some l => simp [endMs, spanMs, answerMs, hl, h l hl]

theorem spanMs_le_limit {l : Nat} (invoke : Invoker)
    (hl : settings.limit? v.elapsedMs = some l) :
    v.spanMs settings invoke ≤ l := by
  simp only [spanMs, hl, Option.elim_some]
  exact Nat.min_le_right _ _

theorem not_within_iff : ¬ v.WithinLimit settings invoke ↔
    ∃ l, settings.limit? v.elapsedMs = some l ∧ l < v.durationMs invoke := by
  simp [WithinLimit]

theorem endMs_of_late {l : Nat} (hl : settings.limit? v.elapsedMs = some l)
    (h : l < v.durationMs invoke) : v.endMs settings invoke = v.session.nowMs + l := by
  simp [endMs, spanMs, hl, Nat.min_eq_right (Nat.le_of_lt h)]

theorem now_lt_of_not_cancelled {c : Nat} (h : v.session.isCancelled = false)
    (hc : v.session.cancelAtMs = some c) : v.session.nowMs < c := by
  simpa [Session.isCancelled, hc] using h

/-- A cancellation that is in force after the call is made is not in the past. -/
theorem now_le_cancelAtMs {c : Nat} (h : v.session.isCancelled = false)
    (hc : v.cancelAtMs invoke = some c) : v.session.nowMs ≤ c := by
  cases hs : v.session.cancelAtMs with
  | none =>
      by_cases hr : (v.reaction invoke).cancels <;> simp [cancelAtMs, hs, hr] at hc
      omega
  | some c' =>
      have := now_lt_of_not_cancelled h hs
      by_cases hr : (v.reaction invoke).cancels <;> simp [cancelAtMs, hs, hr] at hc <;> omega

/-! ## The call of a visit -/

private theorem all_limit_iff :
    (settings.limit? v.elapsedMs).all (v.durationMs invoke ≤ ·) = true ↔
      v.WithinLimit settings invoke := by
  cases hl : settings.limit? v.elapsedMs <;> simp [WithinLimit, hl]

/-- The instant at which a call is cut off or answered is that of its end. -/
private theorem finish_eq_endMs :
    v.session.nowMs + (if (settings.limit? v.elapsedMs).all (v.durationMs invoke ≤ ·) then
      v.durationMs invoke else (settings.limit? v.elapsedMs).getD 0) =
      v.endMs settings invoke := by
  by_cases hw : v.WithinLimit settings invoke
  · rw [if_pos (all_limit_iff.mpr hw), endMs_of_within hw, answerMs]
  · obtain ⟨l, hl, hlt⟩ := not_within_iff.mp hw
    rw [if_neg (mt all_limit_iff.mp hw), endMs_of_late hl hlt, hl, Option.getD_some]

private theorem call_eq :
    v.session.call invoke (settings.limit? v.elapsedMs) v.call =
      match (v.cancelAtMs invoke).filter (· < v.endMs settings invoke) with
      | some c => (.cancelled, v.leave invoke (max v.session.nowMs c))
      | none =>
        if (settings.limit? v.elapsedMs).all (v.durationMs invoke ≤ ·) then
          match (v.reaction invoke).result with
          | .ok a => (.answered a, v.leave invoke (v.endMs settings invoke))
          | .error e => (.failed e, v.leave invoke (v.endMs settings invoke))
        else (.timedOut, v.leave invoke (v.endMs settings invoke)) := by
  rw [← finish_eq_endMs]
  rfl

private theorem filter_of_undisturbed (hu : v.Undisturbed settings invoke) :
    (v.cancelAtMs invoke).filter (· < v.endMs settings invoke) = none := by
  rw [Option.filter_eq_none_iff]
  intro c hc
  simpa using hu c hc

/-- A call that a cancellation meets ends at the instant of the cancellation, whatever the service
would have answered. -/
theorem call_of_disturbed {c : Nat} (hs : v.Starts settings) (hc : v.cancelAtMs invoke = some c)
    (h : c < v.endMs settings invoke) :
    v.session.call invoke (settings.limit? v.elapsedMs) v.call =
      (.cancelled, v.leave invoke c) := by
  have hfilter : (v.cancelAtMs invoke).filter (· < v.endMs settings invoke) = some c := by
    simp [hc, h]
  rw [call_eq, hfilter]
  simp only [Nat.max_eq_right (now_le_cancelAtMs hs.not_cancelled hc)]

/-- An answer in time counts. -/
theorem call_of_ok (ht : v.InTime settings invoke) (hr : (v.reaction invoke).result = .ok a) :
    v.session.call invoke (settings.limit? v.elapsedMs) v.call =
      (.answered a, v.after invoke) := by
  rw [call_eq, filter_of_undisturbed ht.undisturbed]
  simp only [all_limit_iff.mpr ht.within, hr, endMs_of_within ht.within, if_true]
  rfl

/-- A failure in time counts. -/
theorem call_of_error {e : CallError} (ht : v.InTime settings invoke)
    (hr : (v.reaction invoke).result = .error e) :
    v.session.call invoke (settings.limit? v.elapsedMs) v.call = (.failed e, v.after invoke) := by
  rw [call_eq, filter_of_undisturbed ht.undisturbed]
  simp only [all_limit_iff.mpr ht.within, hr, endMs_of_within ht.within, if_true]
  rfl

/-- A call that reaches its limit ends there, whatever the service would do. -/
theorem call_of_late (hu : v.Undisturbed settings invoke) (hw : ¬ v.WithinLimit settings invoke) :
    v.session.call invoke (settings.limit? v.elapsedMs) v.call =
      (.timedOut, v.leave invoke (v.endMs settings invoke)) := by
  rw [call_eq, filter_of_undisturbed hu]
  simp only [if_neg (mt all_limit_iff.mp hw)]

/-! ## The answer of a visit -/

/-- What the stage makes of the visit: an answer or the error that aborts the run. -/
def outcome (settings : PipelineSettings) (invoke : Invoker) (v : Visit) :
    Except PipelineError Answer × Session :=
  v.stage.answer settings invoke v.elapsedMs v.payload v.session

/-- The error of a call that reaches its limit. -/
def lateError (settings : PipelineSettings) (v : Visit) : PipelineError :=
  match settings.allowance v.elapsedMs with
  | .limited ms false => v.stage.timeoutError ms
  | _ => v.stage.deadlineError settings

private theorem outcome_of_starts (hs : v.Starts settings) :
    v.outcome settings invoke = Stage.answer.finish v.stage
      (v.session.call invoke (settings.limit? v.elapsedMs) v.call) (v.lateError settings) := by
  rw [outcome, Stage.answer, lateError, hs.not_cancelled]
  cases hl : settings.limit? v.elapsedMs with
  | none =>
      rw [PipelineSettings.allowance_of_limit?_none hl]
      rfl
  | some l =>
      by_cases hf : settings.DeadlineFirst v.elapsedMs
      · rw [PipelineSettings.allowance_of_deadlineFirst hs.before_deadline hl hf]
        rfl
      · rw [PipelineSettings.allowance_of_not_deadlineFirst hs.before_deadline hl hf]
        rfl

theorem outcome_of_cancelled (h : v.session.isCancelled = true) :
    v.outcome settings invoke = (.error (.cancelled v.stage.name), v.session) := by
  rw [outcome, Stage.answer, if_pos h]

theorem outcome_of_deadlineOver {d : Nat} (hc : v.session.isCancelled = false)
    (hd : settings.deadlineMs = some d) (h : d ≤ v.elapsedMs) :
    v.outcome settings invoke = (.error (.deadlineExceeded v.stage.name d), v.session) := by
  rw [outcome, Stage.answer, hc, PipelineSettings.allowance_of_deadline_le hd h]
  simp [Stage.deadlineError, hd]

theorem outcome_of_disturbed {c : Nat} (hs : v.Starts settings)
    (hc : v.cancelAtMs invoke = some c) (h : c < v.endMs settings invoke) :
    v.outcome settings invoke = (.error (.cancelled v.stage.name), v.leave invoke c) := by
  rw [outcome_of_starts hs, call_of_disturbed hs hc h]
  rfl

theorem outcome_of_ok (ht : v.InTime settings invoke) (hr : (v.reaction invoke).result = .ok a) :
    v.outcome settings invoke = (.ok a, v.after invoke) := by
  rw [outcome_of_starts ht.toStarts, call_of_ok ht hr]
  rfl

theorem outcome_of_error {e : CallError} (ht : v.InTime settings invoke)
    (hr : (v.reaction invoke).result = .error e) :
    v.outcome settings invoke = (.error (v.stage.callError e), v.after invoke) := by
  rw [outcome_of_starts ht.toStarts, call_of_error ht hr]
  rfl

theorem outcome_of_late (hs : v.Starts settings) (hu : v.Undisturbed settings invoke)
    (hw : ¬ v.WithinLimit settings invoke) :
    v.outcome settings invoke =
      (.error (v.lateError settings), v.leave invoke (v.endMs settings invoke)) := by
  rw [outcome_of_starts hs, call_of_late hu hw]
  rfl

theorem lateError_of_deadlineFirst {d : Nat} (hs : v.Starts settings)
    (hw : ¬ v.WithinLimit settings invoke) (hd : settings.deadlineMs = some d)
    (hf : settings.DeadlineFirst v.elapsedMs) :
    v.lateError settings = .deadlineExceeded v.stage.name d := by
  obtain ⟨l, hl, -⟩ := not_within_iff.mp hw
  rw [lateError, PipelineSettings.allowance_of_deadlineFirst hs.before_deadline hl hf]
  simp [Stage.deadlineError, hd]

theorem lateError_of_not_deadlineFirst {t : Nat} (hs : v.Starts settings)
    (hw : ¬ v.WithinLimit settings invoke) (ht : settings.stageTimeout = some t)
    (hf : ¬ settings.DeadlineFirst v.elapsedMs) :
    v.lateError settings =
      .serviceUnavailable v.stage.name v.stage.service.uri s!"timed out after {t}ms" := by
  obtain ⟨l, hl, -⟩ := not_within_iff.mp hw
  obtain rfl : t = l := by
    simpa [ht] using PipelineSettings.stageTimeout_of_not_deadlineFirst hl hf
  rw [lateError, PipelineSettings.allowance_of_not_deadlineFirst hs.before_deadline hl hf]
  rfl

/-! ## Every visit is decided -/

/-- A visit that starts is answered or fails within its time, is disturbed by a
cancellation, or reaches its limit. -/
theorem Starts.cases (invoke : Invoker) (hs : v.Starts settings) :
    v.InTime settings invoke ∨
      (∃ c, v.cancelAtMs invoke = some c ∧ c < v.endMs settings invoke) ∨
      (v.Undisturbed settings invoke ∧ ¬ v.WithinLimit settings invoke) := by
  by_cases hu : v.Undisturbed settings invoke
  · by_cases hw : v.WithinLimit settings invoke
    · exact .inl ⟨hs, hw, hu⟩
    · exact .inr (.inr ⟨hu, hw⟩)
  · simp only [Undisturbed, Classical.not_forall, Nat.not_le] at hu
    obtain ⟨c, hc, h⟩ := hu
    exact .inr (.inl ⟨c, hc, h⟩)

theorem starts_or_fails (settings : PipelineSettings) (invoke : Invoker) (v : Visit) :
    v.Starts settings ∨ ∃ e, v.Fails settings invoke e v.session := by
  by_cases hc : v.session.isCancelled = true
  · exact .inr ⟨_, .cancelledBefore hc⟩
  · have hc' : v.session.isCancelled = false := by simpa using hc
    by_cases hd : ∀ d, settings.deadlineMs = some d → v.elapsedMs < d
    · exact .inl ⟨hc', hd⟩
    · simp only [Classical.not_forall, Nat.not_lt] at hd
      obtain ⟨d, hd, h⟩ := hd
      exact .inr ⟨_, .deadlineOver hc' hd h⟩

/-- A call that reaches its limit fails by the deadline or by the stage timeout. -/
theorem fails_of_late (hs : v.Starts settings) (hu : v.Undisturbed settings invoke)
    (hw : ¬ v.WithinLimit settings invoke) :
    ∃ e, v.Fails settings invoke e (v.leave invoke (v.endMs settings invoke)) := by
  by_cases hf : settings.DeadlineFirst v.elapsedMs
  · have ⟨d, hd, _⟩ := hf
    exact ⟨_, .deadlineReached hs hu hw hd hf⟩
  · obtain ⟨l, hl, -⟩ := not_within_iff.mp hw
    exact ⟨_, .timedOut hs hu hw (PipelineSettings.stageTimeout_of_not_deadlineFirst hl hf) hf⟩

/-- In time, an answer gets its directive and anything else fails. -/
theorem InTime.cases (ht : v.InTime settings invoke) :
    (∃ d a, v.Directs settings invoke d a) ∨ ∃ e, v.Fails settings invoke e (v.after invoke) := by
  cases hr : (v.reaction invoke).result with
  | error e =>
      cases e with
      | invalidRequest reason => exact .inr ⟨_, .unusable ht hr⟩
      | transport reason => exact .inr ⟨_, .unreachable ht hr⟩
  | ok a =>
      cases hn : v.stage.routing.resolve a.status with
      | none => exact .inr ⟨_, .unrouted ht hr hn⟩
      | some d => exact .inl ⟨d, a, ht, hr, hn⟩

/-- A visit leads to a directive or fails. So the ways of failing that are listed are all there
are. -/
theorem directs_or_fails (settings : PipelineSettings) (invoke : Invoker) (v : Visit) :
    (∃ d a, v.Directs settings invoke d a) ∨ ∃ e s, v.Fails settings invoke e s := by
  rcases v.starts_or_fails settings invoke with hs | ⟨e, hfail⟩
  · rcases hs.cases invoke with ht | ⟨c, hc, h⟩ | ⟨hu, hw⟩
    · exact ht.cases.imp_right fun ⟨e, hfail⟩ => ⟨e, _, hfail⟩
    · exact .inr ⟨_, _, .cancelledMeanwhile hs hc h⟩
    · obtain ⟨e, hfail⟩ := fails_of_late hs hu hw
      exact .inr ⟨e, _, hfail⟩
  · exact .inr ⟨e, _, hfail⟩

/-! ## The instant of a failure -/

/-- A failure does not set the clock back. -/
theorem Fails.le_now {e : PipelineError} {s : Session} (h : v.Fails settings invoke e s) :
    v.session.nowMs ≤ s.nowMs := by
  cases h with
  | cancelledBefore | deadlineOver => exact Nat.le_refl _
  | cancelledMeanwhile hs hc => exact now_le_cancelAtMs hs.not_cancelled hc
  | deadlineReached | timedOut | unreachable | unusable | unrouted => exact Nat.le_add_right _ _

/-- A visit that starts and fails does so at the end of its call or at a cancellation
before that. -/
theorem Fails.instant {e : PipelineError} {s : Session} (h : v.Fails settings invoke e s)
    (hs : v.Starts settings) :
    s.nowMs = v.endMs settings invoke ∨
      ∃ c, v.cancelAtMs invoke = some c ∧ c < v.endMs settings invoke ∧ s.nowMs = c := by
  cases h with
  | cancelledBefore h =>
      have hc := hs.not_cancelled
      simp [h] at hc
  | deadlineOver _ hd h => exact absurd (hs.before_deadline _ hd) (Nat.not_lt.mpr h)
  | cancelledMeanwhile _ hc h => exact .inr ⟨_, hc, h, rfl⟩
  | deadlineReached | timedOut => exact .inl rfl
  | unreachable ht | unusable ht | unrouted ht => exact .inl (endMs_of_within ht.within).symm

end Visit

end StageRelay
