import StageRelay.Proofs.Run.Limits

/-!
# Looser limits

A run that no limit has ended goes on in the same way when its limits are longer. What it
meets does not depend on the limits: `Pipeline.visits` knows none. So it is enough that each
visit of the run comes to the same, and that is said here predicate by predicate. A call
that was over in time is over in time still, and a cancellation that came before the limit
comes before a later one.

Only the effective stage timeout counts, so a timeout of zero and none at all are one
setting.
-/

namespace StageRelay

/-- The error says that a limit was reached: that of a single stage, or that of the whole run. -/
inductive PipelineError.ByLimit : PipelineError → Prop where
  | deadline (extension : String) (budgetMs : Nat) : ByLimit (.deadlineExceeded extension budgetMs)
  | timeout (extension uri : String) (ms : Nat) :
      ByLimit (.serviceUnavailable extension uri s!"timed out after {ms}ms")

namespace PipelineSettings

/-- The limits of `s'` are no shorter than those of `s`, where no limit is the longest. Runs without
stages have the same status, which is no matter of limits. -/
structure Relaxes (s' s : PipelineSettings) : Prop where
  stageTimeout : ∀ t', s'.stageTimeout = some t' → ∃ t, s.stageTimeout = some t ∧ t ≤ t'
  deadline : ∀ d', s'.deadlineMs = some d' → ∃ d, s.deadlineMs = some d ∧ d ≤ d'
  emptyQueueStatus : s'.emptyQueueStatus = s.emptyQueueStatus

variable {s s' : PipelineSettings} {elapsedMs n : Nat}

/-- What is within the limit of a stage is within the stage timeout and within what is left
until the deadline. -/
theorem forall_le_limit?_iff :
    (∀ l, s.limit? elapsedMs = some l → n ≤ l) ↔
      (∀ t, s.stageTimeout = some t → n ≤ t) ∧
        ∀ d, s.deadlineMs = some d → n ≤ d - elapsedMs := by
  rw [limit?]
  cases s.stageTimeout with
  | none => cases s.deadlineMs <;> simp
  | some t =>
      cases s.deadlineMs with
      | none => simp
      | some d =>
          have hmerge : Option.merge min (some t) ((some d).map (· - elapsedMs)) =
              some (min t (d - elapsedMs)) := rfl
          simp only [hmerge, Option.some.injEq, forall_eq', Nat.le_min]

theorem Relaxes.forall_le_limit? (h : s'.Relaxes s)
    (hn : ∀ l, s.limit? elapsedMs = some l → n ≤ l) :
    ∀ l', s'.limit? elapsedMs = some l' → n ≤ l' := by
  obtain ⟨hstage, hdeadline⟩ := forall_le_limit?_iff.mp hn
  refine forall_le_limit?_iff.mpr ⟨fun t' ht' => ?_, fun d' hd' => ?_⟩
  · obtain ⟨t, ht, hle⟩ := h.stageTimeout t' ht'
    exact Nat.le_trans (hstage t ht) hle
  · obtain ⟨d, hd, hle⟩ := h.deadline d' hd'
    exact Nat.le_trans (hdeadline d hd) (Nat.sub_le_sub_right hle elapsedMs)

end PipelineSettings

namespace Visit

variable {settings settings' : PipelineSettings} {invoke : Invoker} {v : Visit}

/-! ## A visit under looser limits -/

theorem Starts.relax (hs : v.Starts settings) (h : settings'.Relaxes settings) :
    v.Starts settings' where
  not_cancelled := hs.not_cancelled
  before_deadline d' hd' := by
    obtain ⟨d, hd, hle⟩ := h.deadline d' hd'
    exact Nat.lt_of_lt_of_le (hs.before_deadline d hd) hle

theorem WithinLimit.relax (hw : v.WithinLimit settings invoke) (h : settings'.Relaxes settings) :
    v.WithinLimit settings' invoke :=
  h.forall_le_limit? hw

/-- A call lasts until its service is done or its limit is reached. -/
theorem le_spanMs_iff {n : Nat} :
    n ≤ v.spanMs settings invoke ↔
      n ≤ v.durationMs invoke ∧ ∀ l, settings.limit? v.elapsedMs = some l → n ≤ l := by
  rw [spanMs]
  cases settings.limit? v.elapsedMs with
  | none => simp
  | some l => simp only [Option.elim_some, Option.some.injEq, forall_eq', Nat.le_min]

/-- No call ends sooner. -/
theorem endMs_le_of_relaxes (invoke : Invoker) (v : Visit) (h : settings'.Relaxes settings) :
    v.endMs settings invoke ≤ v.endMs settings' invoke := by
  obtain ⟨hduration, hlimit⟩ := le_spanMs_iff.mp (Nat.le_refl (v.spanMs settings invoke))
  have hspan : v.spanMs settings invoke ≤ v.spanMs settings' invoke :=
    le_spanMs_iff.mpr ⟨hduration, h.forall_le_limit? hlimit⟩
  exact Nat.add_le_add_left hspan v.session.nowMs

theorem InTime.relax (ht : v.InTime settings invoke) (h : settings'.Relaxes settings) :
    v.InTime settings' invoke := by
  have hwithin := WithinLimit.relax ht.within h
  refine ⟨ht.toStarts.relax h, hwithin, ?_⟩
  intro c hc
  -- a call within both limits ends when its service is done, under either of them
  rw [endMs_of_within hwithin, ← endMs_of_within ht.within]
  exact ht.undisturbed c hc

theorem Directs.relax {d : Directive} {a : Answer} (hd : v.Directs settings invoke d a)
    (h : settings'.Relaxes settings) : v.Directs settings' invoke d a :=
  ⟨hd.toInTime.relax h, hd.result, hd.routed⟩

/-- A stage that fails for another reason than a limit fails in the same way under looser limits,
and at the same time. -/
theorem Fails.relax {e : PipelineError} {s : Session} (hfail : v.Fails settings invoke e s)
    (h : settings'.Relaxes settings) (he : ¬ e.ByLimit) : v.Fails settings' invoke e s := by
  cases hfail with
  | cancelledBefore hc => exact .cancelledBefore hc
  | deadlineOver | deadlineReached => exact absurd (.deadline _ _) he
  | cancelledMeanwhile hs hc hlt =>
      -- the call may last longer now, so that the cancellation is before its end as it was
      exact .cancelledMeanwhile (hs.relax h) hc
        (Nat.lt_of_lt_of_le hlt (endMs_le_of_relaxes invoke v h))
  | timedOut => exact absurd (.timeout _ _ _) he
  | unreachable ht hr => exact .unreachable (ht.relax h) hr
  | unusable ht hr => exact .unusable (ht.relax h) hr
  | unrouted ht hr hn => exact .unrouted (ht.relax h) hr hn

end Visit

/-! ## Settings of one meaning -/

/-- A stage looks at the effective stage timeout and at the deadline, and at no other
setting. -/
theorem Stage.answer_congr {settings settings' : PipelineSettings}
    (ht : settings'.stageTimeout = settings.stageTimeout)
    (hd : settings'.deadlineMs = settings.deadlineMs) (stage : Stage) (invoke : Invoker)
    (elapsedMs : Nat) (payload : ByteArray) (s : Session) :
    stage.answer settings' invoke elapsedMs payload s =
      stage.answer settings invoke elapsedMs payload s := by
  simp only [answer, PipelineSettings.allowance, deadlineError, ht, hd]

namespace Pipeline

open PipelineSettings (Relaxes)

variable {settings settings' : PipelineSettings} {invoke : Invoker} {route : String}
variable {queue : List Stage} {payload : ByteArray} {s : Session}

theorem runStages_congr (ht : settings'.stageTimeout = settings.stageTimeout)
    (hd : settings'.deadlineMs = settings.deadlineMs)
    (he : settings'.emptyQueueStatus = settings.emptyQueueStatus) (invoke : Invoker)
    (startMs : Nat) (queue : List Stage) (c : Carried) (s : Session) :
    runStages settings' invoke startMs queue c s = runStages settings invoke startMs queue c s := by
  induction queue generalizing c s with
  | nil => simp only [runStages, he]
  | cons stage queue ih => simp only [runStages, Stage.answer_congr ht hd, ih]

theorem execute_congr (ht : settings'.stageTimeout = settings.stageTimeout)
    (hd : settings'.deadlineMs = settings.deadlineMs)
    (he : settings'.emptyQueueStatus = settings.emptyQueueStatus) :
    execute settings' invoke route queue payload s =
      execute settings invoke route queue payload s := by
  rw [execute, execute, runStages_congr ht hd he]

/-! ## Whole runs -/

theorem AllForward.relax {passed : List Visit} {answers : List Answer}
    (hp : AllForward settings invoke passed answers) (h : settings'.Relaxes settings) :
    AllForward settings' invoke passed answers :=
  List.Forall₂.imp (fun _ _ hd => hd.relax h) hp

/-- A run that no limit has ended is the same run under looser limits. The induction is over the
queue, with the clock in step. -/
theorem execute_of_relaxes (h : settings'.Relaxes settings)
    (he : ∀ e, (execute settings invoke route queue payload s).1 = .error e → ¬ e.ByLimit) :
    execute settings' invoke route queue payload s =
      execute settings invoke route queue payload s := by
  rcases allForward_or_stop settings invoke (visits invoke s.nowMs queue payload s) with
    ⟨answers, hall⟩ | ⟨passed, v, rest, answers, hv, hp, ⟨a, ha⟩ | ⟨e, s', hfail⟩⟩
  · rw [execute_of_allForward hall, execute_of_allForward (hall.relax h), h.emptyQueueStatus]
  · rw [execute_of_terminate hv hp ha, execute_of_terminate hv (hp.relax h) (ha.relax h)]
  · rw [execute_of_fails hv hp hfail] at he ⊢
    rw [execute_of_fails hv (hp.relax h) (hfail.relax h (he e rfl))]

/-- Looser limits change no result that a limit has not caused: a run that is not ended by
the stage timeout or by the deadline gives the same result, makes the same calls and takes
the same time when both are longer or left out. A stage timeout of zero is none, in every
run. -/
theorem execute_relaxed (invoke : Invoker) (route : String) (queue : List Stage)
    (payload : ByteArray) (s : Session) :
    (∀ settings settings' : PipelineSettings, settings'.Relaxes settings →
      (∀ e, (execute settings invoke route queue payload s).1 = .error e → ¬ e.ByLimit) →
        execute settings' invoke route queue payload s =
          execute settings invoke route queue payload s) ∧
    ∀ (deadlineMs : Option Nat) (emptyQueueStatus : Status),
      execute ⟨none, deadlineMs, emptyQueueStatus⟩ invoke route queue payload s =
        execute ⟨some 0, deadlineMs, emptyQueueStatus⟩ invoke route queue payload s := by
  refine ⟨fun _ _ h he => execute_of_relaxes h he, ?_⟩
  intro deadlineMs emptyQueueStatus
  exact execute_congr rfl rfl rfl

/-- The second service is cut off after 60 ms by a cancellation. The tight limits would have
ended its call at 110 ms and the loose ones at 1000 ms, so neither shows. -/
theorem execute_relaxed_cancelled :
    let run := fun settings => execute settings slowingServices "orders"
      [passingStage "first", passingStage "second"] .empty (.start (some 60))
    Relaxes ⟨none, some 1000, 204⟩ ⟨some 100, some 150, 204⟩ ∧
      (run ⟨some 100, some 150, 204⟩).1 = .error (.cancelled "second") ∧
      ¬ (PipelineError.cancelled "second").ByLimit ∧
      run ⟨none, some 1000, 204⟩ = run ⟨some 100, some 150, 204⟩ := by
  intro run
  have hrelaxes : Relaxes ⟨none, some 1000, 204⟩ ⟨some 100, some 150, 204⟩ := by
    refine ⟨?_, ?_, rfl⟩
    · rintro t' ⟨⟩
    · rintro d' ⟨⟩
      exact ⟨150, rfl, by decide⟩
  have hrun : (run ⟨some 100, some 150, 204⟩).1 = .error (.cancelled "second") := rfl
  have hcause : ¬ (PipelineError.cancelled "second").ByLimit := by rintro ⟨⟩
  refine ⟨hrelaxes, hrun, hcause, ?_⟩
  refine (execute_relaxed slowingServices "orders" _ .empty (.start (some 60))).1 _ _ hrelaxes ?_
  intro e he
  obtain rfl : .cancelled "second" = e := Except.error.inj (hrun.symm.trans he)
  exact hcause

end Pipeline

end StageRelay
