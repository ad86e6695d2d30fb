import StageRelay.Proofs.Run.Limits

/-!
# Queues one after the other

Without a deadline a stage does not look at the time that the run has taken. So a queue may be
divided anywhere: its run is the run of the first part and, if that completes, the run of the
second part with the payload and in the session that the first part leaves. The one thing
that the second part cannot know is the last status, and it matters only if there are no further
stages.

Services are steady when the answer to a call depends on the call alone. Then the session tells
nothing of use either: what is run behind other calls is run as in a fresh session, with its
calls put behind those and its clock moved on.
-/

namespace StageRelay

def PipelineSettings.Timeless (s : PipelineSettings) : Prop := s.deadlineMs = none

/-- Services that answer every call by itself, whatever was called before, and never ask for a
cancellation. What they answer is then a matter of the call alone. -/
structure Invoker.Steady (invoke : Invoker) : Prop where
  by_call : ∀ call calls, invoke (call :: calls) = invoke [call]
  not_cancels : ∀ call, (invoke [call]).cancels = false

/-- The session as it is behind another one: its calls come after those of the other, and its
clock goes on where the other's stands. -/
def Session.behind (s base : Session) : Session :=
  ⟨s.calls ++ base.calls, base.nowMs + s.nowMs, s.cancelAtMs⟩

theorem Session.start_behind {s : Session} (hs : s.cancelAtMs = none) :
    (Session.start none).behind s = s := by
  obtain ⟨calls, nowMs, cancelAtMs⟩ := s
  obtain rfl : cancelAtMs = none := hs
  rfl

theorem Session.isCancelled_of_none {s : Session} (hs : s.cancelAtMs = none) :
    s.isCancelled = false := by
  rw [isCancelled, hs, Option.any_none]

/-- The result of a run that is followed by a run of further stages with the payload that it leaves.
A rejected run is not followed by anything. The status of the last stage counts, so without further
stages it is that of the first run. -/
def Run.continued (first : Run) (rest : List Stage)
    (run : ByteArray → Except PipelineError Run) : Except PipelineError Run :=
  match first.outcome with
  | .rejected .. => .ok first
  | .completed payload status =>
    (run payload).map fun second =>
      ⟨first.route, if rest.isEmpty then .completed payload status else second.outcome,
        first.stages ++ second.stages⟩

/-! ## Without a deadline -/

namespace Stage

variable {settings : PipelineSettings}

/-- Without a deadline the time that the run has taken does not matter, as the timeout of a stage
begins with its call. -/
theorem answer_of_timeless (h : settings.Timeless) (stage : Stage) (invoke : Invoker)
    (elapsedMs elapsedMs' : Nat) (payload : ByteArray) (s : Session) :
    stage.answer settings invoke elapsedMs payload s =
      stage.answer settings invoke elapsedMs' payload s := by
  have hallowance : settings.allowance elapsedMs = settings.allowance elapsedMs' := by
    simp only [PipelineSettings.allowance, show settings.deadlineMs = none from h]
    cases settings.stageTimeout <;> rfl
  rw [answer, answer, hallowance]

end Stage

theorem Carried.absorbAll_start (payload : ByteArray) (answers : List Answer) :
    (Carried.start payload).absorbAll answers =
      ⟨latestBody payload answers, answers.getLast?.map Answer.status⟩ := by
  have hlast := Carried.lastStatus_absorbAll (.start payload) answers
  rw [show (Carried.start payload).lastStatus = none from rfl, Option.or_none] at hlast
  rw [← hlast, show latestBody payload answers = _ from
    (Carried.payload_absorbAll (.start payload) answers).symm]

namespace Pipeline

variable {settings : PipelineSettings} {invoke : Invoker} {route : String}
variable {first rest queue : List Stage} {payload : ByteArray} {c : Carried} {s t : Session}

/-- Without a deadline the instant at which the run began does not matter. -/
theorem runStages_of_timeless (h : settings.Timeless) (invoke : Invoker) (startMs startMs' : Nat)
    (queue : List Stage) (c : Carried) (s : Session) :
    runStages settings invoke startMs queue c s = runStages settings invoke startMs' queue c s := by
  induction queue generalizing c s with
  | nil => rfl
  | cons stage queue ih =>
      have hanswer := stage.answer_of_timeless h invoke (s.nowMs - startMs) (s.nowMs - startMs')
        c.payload s
      simp only [runStages, hanswer, ih]

/-- The status of the stage before is of no account when there is a stage to come. -/
theorem runStages_lastStatus (startMs : Nat) (hqueue : queue ≠ []) (payload : ByteArray)
    (last : Option Status) (s : Session) :
    runStages settings invoke startMs queue ⟨payload, last⟩ s =
      runStages settings invoke startMs queue (.start payload) s := by
  cases queue with
  | nil => exact absurd rfl hqueue
  | cons stage queue => rfl

/-- A run reports what its queue comes to. -/
theorem execute_eq_map (settings : PipelineSettings) (invoke : Invoker) (route : String)
    (queue : List Stage) (payload : ByteArray) (s : Session) :
    execute settings invoke route queue payload s =
      ((runStages settings invoke s.nowMs queue (.start payload) s).1.map
        fun o => ⟨route, o.1, o.2⟩,
        (runStages settings invoke s.nowMs queue (.start payload) s).2) := by
  rw [execute]
  obtain ⟨r, s'⟩ := runStages settings invoke s.nowMs queue (.start payload) s
  cases r <;> rfl

/-- Behind stages that all forward, a run without a deadline goes on as a run of its own. -/
theorem execute_append_of_allForward {answers : List Answer} (h : settings.Timeless)
    (hall : AllForward settings invoke (visits invoke s.nowMs first payload s) answers) :
    execute settings invoke route (first ++ rest) payload s =
      ((execute settings invoke route first payload s).1.bind fun run =>
        run.continued rest fun final =>
          (execute settings invoke route rest final
            (execute settings invoke route first payload s).2).1,
        (execute settings invoke route rest (latestBody payload answers)
          (execute settings invoke route first payload s).2).2) := by
  have hrun : runStages settings invoke s.nowMs (first ++ rest) (.start payload) s = _ :=
    runStages_append hall
  rw [Carried.absorbAll_start, show (Carried.start payload).payload = payload from rfl] at hrun
  rw [execute_of_allForward hall, execute_eq_map, hrun]
  generalize sessionAfter invoke s (visits invoke s.nowMs first payload s) = s'
  cases rest with
  | nil => simp [runStages, precede, Run.continued, execute, Except.map, Except.bind, Carried.start]
  | cons stage rest =>
      have hsecond : runStages settings invoke s.nowMs (stage :: rest)
          ⟨latestBody payload answers, answers.getLast?.map Answer.status⟩ s' =
        runStages settings invoke s'.nowMs (stage :: rest)
          (.start (latestBody payload answers)) s' :=
        (runStages_lastStatus _ (List.cons_ne_nil _ _) ..).trans (runStages_of_timeless h ..)
      rw [hsecond]
      simp only [Except.bind, Run.continued, execute_eq_map, precede]
      obtain ⟨r, s''⟩ := runStages settings invoke s'.nowMs (stage :: rest) _ s'
      cases r <;> simp [Except.map]

/-- The run of a divided queue without a deadline. The second part runs in the session that the
first leaves, if the first completes. -/
theorem execute_append (h : settings.Timeless) (invoke : Invoker) (route : String)
    (first rest : List Stage) (payload : ByteArray) (s : Session) :
    (execute settings invoke route (first ++ rest) payload s).1 =
      (execute settings invoke route first payload s).1.bind fun run =>
        run.continued rest fun final =>
          (execute settings invoke route rest final
            (execute settings invoke route first payload s).2).1 := by
  rcases allForward_or_stop settings invoke (visits invoke s.nowMs first payload s) with
    ⟨answers, hall⟩ | ⟨passed, v, others, answers, hfirst, hpassed, hstop⟩
  · rw [execute_append_of_allForward h hall]
  · have hboth := visits_append invoke s.nowMs first rest payload s
    rw [hfirst, List.append_assoc, List.cons_append] at hboth
    rcases hstop with ⟨a, ha⟩ | ⟨e, s', he⟩
    · rw [execute_of_terminate hboth hpassed ha, execute_of_terminate hfirst hpassed ha]
      rfl
    · rw [execute_of_fails hboth hpassed he, execute_of_fails hfirst hpassed he]
      rfl

end Pipeline

/-! ## Steady services -/

namespace Reaction

/-- How a call with this reaction ends that may take a number of milliseconds. -/
def ending (r : Reaction (Except CallError Answer)) (limit : Option Nat) : Ending :=
  if limit.all (r.durationMs ≤ ·) then
    match r.result with
    | .ok a => .answered a
    | .error e => .failed e
  else .timedOut

/-- The milliseconds until such a call is over. -/
def spanMs (r : Reaction (Except CallError Answer)) (limit : Option Nat) : Nat :=
  if limit.all (r.durationMs ≤ ·) then r.durationMs else limit.getD 0

end Reaction

/-- What is done behind the calls of a session comes to what it comes to alone. The session that it
leaves is put behind that one, and no cancellation is left. -/
def Session.Carries {α : Type} (base : Session) (alone behind : α × Session) : Prop :=
  behind = (alone.1, alone.2.behind base) ∧ alone.2.cancelAtMs = none

namespace Invoker.Steady

variable {settings : PipelineSettings} {invoke : Invoker} {s : Session}

/-- A call of steady services comes to the same in every session. Earlier calls have no influence on
it, and neither has the time. -/
theorem call_eq (h : invoke.Steady) (hs : s.cancelAtMs = none) (limit : Option Nat)
    (call : Call) :
    s.call invoke limit call =
      ((invoke [call]).ending limit,
        ⟨call :: s.calls, s.nowMs + (invoke [call]).spanMs limit, none⟩) := by
  simp only [Session.call, h.by_call call s.calls, h.not_cancels, hs, Reaction.ending,
    Reaction.spanMs, Bool.false_eq_true, if_false, Option.filter_none]
  split
  · cases (invoke [call]).result <;> rfl
  · rfl

theorem call_behind (h : invoke.Steady) (hs : s.cancelAtMs = none) (base : Session)
    (limit : Option Nat) (call : Call) :
    base.Carries (s.call invoke limit call) ((s.behind base).call invoke limit call) := by
  have hbehind : (s.behind base).cancelAtMs = none := hs
  rw [h.call_eq hs, h.call_eq hbehind]
  refine ⟨?_, rfl⟩
  simp only [Session.behind, List.cons_append, Nat.add_assoc]

/-- The answer of a stage behind other calls. -/
theorem answer_behind (h : invoke.Steady) (settings : PipelineSettings)
    (hs : s.cancelAtMs = none) (base : Session) (stage : Stage) (elapsedMs : Nat)
    (payload : ByteArray) :
    base.Carries (stage.answer settings invoke elapsedMs payload s)
      (stage.answer settings invoke elapsedMs payload (s.behind base)) := by
  have hbehind : (s.behind base).cancelAtMs = none := hs
  simp only [Stage.answer, Session.isCancelled_of_none hs, Session.isCancelled_of_none hbehind,
    Bool.false_eq_true, if_false]
  have hfinish : ∀ limit late, base.Carries
      (Stage.answer.finish stage (s.call invoke limit ⟨stage.service, payload⟩) late)
      (Stage.answer.finish stage ((s.behind base).call invoke limit ⟨stage.service, payload⟩)
        late) := by
    intro limit late
    have hcall := h.call_behind hs base limit ⟨stage.service, payload⟩
    generalize s.call invoke limit ⟨stage.service, payload⟩ = alone at hcall ⊢
    generalize (s.behind base).call invoke limit ⟨stage.service, payload⟩ = behind at hcall ⊢
    obtain ⟨ending, s'⟩ := alone
    obtain ⟨rfl, huncancelled⟩ := hcall
    cases ending <;> exact ⟨rfl, huncancelled⟩
  cases settings.allowance elapsedMs with
  | expired => exact ⟨rfl, hs⟩
  | unlimited => exact hfinish ..
  | limited ms byDeadline => exact hfinish ..

/-- Without a deadline, stages behind other calls. -/
theorem runStages_behind (h : invoke.Steady) (hsettings : settings.Timeless)
    (hs : s.cancelAtMs = none) (base : Session) (startMs : Nat) (queue : List Stage)
    (c : Carried) :
    base.Carries (Pipeline.runStages settings invoke startMs queue c s)
      (Pipeline.runStages settings invoke startMs queue c (s.behind base)) := by
  -- Both runs take the same turn at each stage, since neither looks at the session.
  induction queue generalizing c s with
  | nil => exact ⟨rfl, hs⟩
  | cons stage queue ih =>
      have hanswer := h.answer_behind settings hs base stage (s.nowMs - startMs) c.payload
      rw [stage.answer_of_timeless hsettings invoke (s.nowMs - startMs)
        ((s.behind base).nowMs - startMs) c.payload (s.behind base)] at hanswer
      simp only [Pipeline.runStages]
      generalize stage.answer settings invoke (s.nowMs - startMs) c.payload s = alone
        at hanswer ⊢
      generalize stage.answer settings invoke ((s.behind base).nowMs - startMs) c.payload
        (s.behind base) = behind at hanswer ⊢
      obtain ⟨result, s'⟩ := alone
      obtain ⟨rfl, huncancelled⟩ := hanswer
      cases result with
      | error e => exact ⟨rfl, huncancelled⟩
      | ok a =>
          have helapsed : (s'.behind base).nowMs - (s.behind base).nowMs = s'.nowMs - s.nowMs :=
            Nat.add_sub_add_left ..
          simp only [helapsed]
          cases stage.route a.status with
          | error e => exact ⟨rfl, huncancelled⟩
          | ok d =>
              cases d with
              | terminate => exact ⟨rfl, huncancelled⟩
              | forward =>
                  have hrest := ih huncancelled (c.absorb a)
                  simp only
                  generalize Pipeline.runStages settings invoke startMs queue (c.absorb a) s' =
                    alone at hrest ⊢
                  generalize Pipeline.runStages settings invoke startMs queue (c.absorb a)
                    (s'.behind base) = behind at hrest ⊢
                  obtain ⟨result, s''⟩ := alone
                  obtain ⟨rfl, hended⟩ := hrest
                  cases result <;> exact ⟨rfl, hended⟩

/-- Without a deadline, a run behind other calls. -/
theorem execute_behind (h : invoke.Steady) (hsettings : settings.Timeless)
    (hs : s.cancelAtMs = none) (base : Session) (route : String) (queue : List Stage)
    (payload : ByteArray) :
    base.Carries (Pipeline.execute settings invoke route queue payload s)
      (Pipeline.execute settings invoke route queue payload (s.behind base)) := by
  obtain ⟨hstages, hended⟩ := h.runStages_behind hsettings hs base s.nowMs queue (.start payload)
  rw [Pipeline.execute_eq_map, Pipeline.execute_eq_map,
    Pipeline.runStages_of_timeless hsettings invoke (s.behind base).nowMs s.nowMs, hstages]
  exact ⟨rfl, hended⟩

/-- A run comes to the same in every session that is not cancelled. -/
theorem execute_fst (h : invoke.Steady) (hsettings : settings.Timeless)
    (hs : s.cancelAtMs = none) (route : String) (queue : List Stage) (payload : ByteArray) :
    (Pipeline.execute settings invoke route queue payload s).1 =
      (Pipeline.execute settings invoke route queue payload (.start none)).1 := by
  obtain ⟨hexecute, -⟩ :=
    h.execute_behind (s := .start none) hsettings rfl s route queue payload
  rw [Session.start_behind hs] at hexecute
  rw [hexecute]

end Invoker.Steady

namespace Pipeline

variable {settings : PipelineSettings} {invoke : Invoker} {s t : Session}

/-- A queue divided in two, run with steady services and without a deadline or a cancellation.
The error or rejection of the first part is that of the whole. Behind a first part that
completes, the second part runs as it would in any session, with the payload that the first
part leaves, and the records of both are those of the whole. -/
theorem execute_append_of_steady (hsettings : settings.Timeless) (hsteady : invoke.Steady)
    (hs : s.cancelAtMs = none) (ht : t.cancelAtMs = none) (route : String)
    (first rest : List Stage) (payload : ByteArray) :
    (execute settings invoke route (first ++ rest) payload s).1 =
      (execute settings invoke route first payload s).1.bind fun run =>
        run.continued rest fun final => (execute settings invoke route rest final t).1 := by
  obtain ⟨-, hended⟩ := hsteady.execute_behind hsettings hs s route first payload
  rw [execute_append hsettings]
  congr 1
  funext run
  congr 1
  funext final
  rw [hsteady.execute_fst hsettings hended, hsteady.execute_fst hsettings ht]

/-- Services that answer with one byte more than they are sent, a millisecond a byte. So a run
depends on its payload in what it gives and in the time it takes. -/
def lengtheningServices : Invoker
  | [] => ⟨.error (.transport "no call"), 0, false⟩
  | call :: _ => ⟨.ok ⟨200, call.payload.push 33⟩, call.payload.size, false⟩

/-- The second stage runs alone with the two bytes that the first leaves, late in a session. -/
theorem execute_append_of_steady_lengtheningServices :
    let settings : PipelineSettings := ⟨some 100, none, 204⟩
    let run := fun queue payload s =>
      (execute settings lengtheningServices "orders" queue payload s).1
    settings.Timeless ∧ lengtheningServices.Steady ∧
      run ([passingStage "first"] ++ [passingStage "second"]) ⟨#[97]⟩ (.start none) =
        (run [passingStage "first"] ⟨#[97]⟩ (.start none)).bind (·.continued
          [passingStage "second"] fun final => run [passingStage "second"] final ⟨[], 500, none⟩) ∧
      run [passingStage "first", passingStage "second"] ⟨#[97]⟩ (.start none) =
        .ok ⟨"orders", .completed ⟨#[97, 33, 33]⟩ 200,
          [⟨"first", 200, .forward, true, 1⟩, ⟨"second", 200, .forward, true, 2⟩]⟩ := by
  intro settings run
  have hsettings : settings.Timeless := rfl
  have hsteady : lengtheningServices.Steady := ⟨fun _ _ => rfl, fun _ => rfl⟩
  exact ⟨hsettings, hsteady,
    execute_append_of_steady hsettings hsteady (s := .start none) (t := ⟨[], 500, none⟩) rfl rfl
      "orders" [passingStage "first"] [passingStage "second"] ⟨#[97]⟩, rfl⟩

end Pipeline

end StageRelay
