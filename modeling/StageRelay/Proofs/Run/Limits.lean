import StageRelay.Proofs.Run.Calls
import StageRelay.Proofs.Run.Outcome

/-!
# The limits of a run

A stage may take until the shorter of the stage timeout and of what is left until
the deadline. A call that is over by then is used, and a call that is not is cut off
there: by the deadline if that is strictly sooner, else by the stage timeout. So no
run outlasts its deadline, and no record its stage timeout.
-/

namespace StageRelay

namespace PipelineSettings

variable {s : PipelineSettings} {t d : Nat}

theorem limit?_le_stageTimeout (elapsedMs : Nat) (ht : s.stageTimeout = some t) :
    ∃ l, s.limit? elapsedMs = some l ∧ l ≤ t := by
  cases hd : s.deadlineMs with
  | none => exact ⟨t, by simp [limit?, ht, hd], Nat.le_refl _⟩
  | some d => exact ⟨_, by simp [limit?, ht, hd], Nat.min_le_left t (d - elapsedMs)⟩

theorem limit?_le_deadline (elapsedMs : Nat) (hd : s.deadlineMs = some d) :
    ∃ l, s.limit? elapsedMs = some l ∧ l ≤ d - elapsedMs := by
  cases ht : s.stageTimeout with
  | none => exact ⟨d - elapsedMs, by simp [limit?, ht, hd], Nat.le_refl _⟩
  | some t => exact ⟨_, by simp [limit?, ht, hd], Nat.min_le_right t (d - elapsedMs)⟩

end PipelineSettings

namespace Visit

variable {settings : PipelineSettings} {invoke : Invoker} {v : Visit} {d : Nat}

theorem InTime.duration_le_stageTimeout {t : Nat} (h : v.InTime settings invoke)
    (ht : settings.stageTimeout = some t) : v.durationMs invoke ≤ t := by
  obtain ⟨l, hl, hle⟩ := PipelineSettings.limit?_le_stageTimeout v.elapsedMs ht
  exact Nat.le_trans (h.within l hl) hle

/-- A call that starts is over by the deadline. It is cut off there if it takes longer, and the cut
is part of its time. -/
theorem Starts.span_le_deadline (invoke : Invoker) (h : v.Starts settings)
    (hd : settings.deadlineMs = some d) : v.elapsedMs + v.spanMs settings invoke ≤ d := by
  obtain ⟨l, hl, hle⟩ := PipelineSettings.limit?_le_deadline v.elapsedMs hd
  have hspan := spanMs_le_limit invoke hl
  have hopen := h.before_deadline d hd
  omega

theorem InTime.duration_le_deadline (h : v.InTime settings invoke)
    (hd : settings.deadlineMs = some d) : v.elapsedMs + v.durationMs invoke ≤ d := by
  have hspan := h.toStarts.span_le_deadline invoke hd
  have hend := endMs_of_within h.within
  simp only [endMs, answerMs] at hend
  omega

end Visit

namespace Pipeline

variable {settings : PipelineSettings} {invoke : Invoker} {route : String} {queue : List Stage}
variable {payload : ByteArray} {s : Session} {passed rest : List Visit} {v : Visit} {d : Nat}

/-- In a run the time so far is that of the calls before. -/
theorem elapsed_of_visits (hv : visits invoke s.nowMs queue payload s = passed ++ v :: rest) :
    v.elapsedMs = (passed.map (Visit.durationMs invoke)).sum := by
  have hmet := met_of_visits_eq_append hv
  rw [hmet.elapsed, hmet.now, Nat.add_sub_cancel_left]

/-- Calls that are over in time are over by the deadline. -/
theorem sum_durations_le (hv : visits invoke s.nowMs queue payload s = passed ++ rest)
    (hp : ∀ u ∈ passed, u.InTime settings invoke) (hd : settings.deadlineMs = some d) :
    (passed.map (Visit.durationMs invoke)).sum ≤ d := by
  rcases List.eq_nil_or_concat passed with rfl | ⟨before, u, rfl⟩
  · exact Nat.zero_le _
  · rw [List.concat_eq_append, List.append_assoc] at hv
    have hu := (hp u (by simp)).duration_le_deadline hd
    rw [elapsed_of_visits hv] at hu
    simpa using hu

theorem elapsed_forwardRecords {answers : List Answer}
    (h : AllForward settings invoke passed answers) :
    (forwardRecords invoke passed answers).map StageRecord.elapsedMs =
      passed.map (Visit.durationMs invoke) := by
  induction h with
  | nil => rfl
  | cons _ _ ih =>
      rw [List.map_cons, ← ih]
      rfl

/-- No run outlasts its deadline. Every call that starts is over by then, and where none starts no
time goes by. -/
theorem execute_now_le (route : String) (queue : List Stage) (payload : ByteArray) (s : Session)
    (hd : settings.deadlineMs = some d) :
    (execute settings invoke route queue payload s).2.nowMs ≤ s.nowMs + d := by
  rcases allForward_or_stop settings invoke (visits invoke s.nowMs queue payload s) with
    ⟨answers, hall⟩ | ⟨passed, v, rest, answers, hv, hp, hstop⟩
  · rw [execute_of_allForward hall, (sessionAfter_visits invoke s.nowMs queue payload s).2]
    have hsum := sum_durations_le (List.append_nil _).symm hall.inTime hd
    omega
  · have hsum := sum_durations_le hv hp.inTime hd
    have hnow := (met_of_visits_eq_append hv).now
    have helapsed := elapsed_of_visits hv
    rcases hstop with ⟨a, ha⟩ | ⟨e, s', hfail⟩
    · rw [execute_of_terminate hv hp ha]
      have hspan := ha.toInTime.duration_le_deadline hd
      show v.session.nowMs + v.durationMs invoke ≤ s.nowMs + d
      omega
    · rw [execute_of_fails hv hp hfail]
      show s'.nowMs ≤ s.nowMs + d
      rcases hfail.now_le with hle | ⟨hs, hle⟩
      · omega
      · have hspan := hs.span_le_deadline invoke hd
        simp only [Visit.endMs] at hle
        omega

/-- The records of a report are those of calls that were over in time. A call that was cut off has
no record, since it aborts the run. -/
theorem exists_inTime_of_report {report : Run}
    (h : (execute settings invoke route queue payload s).1 = .ok report) :
    ∃ passed rest, visits invoke s.nowMs queue payload s = passed ++ rest ∧
      (∀ u ∈ passed, u.InTime settings invoke) ∧
      report.stages.map StageRecord.elapsedMs = passed.map (Visit.durationMs invoke) := by
  obtain ⟨label, outcome, records⟩ := report
  cases outcome with
  | completed final status =>
      obtain ⟨-, answers, hall, -, -, rfl⟩ := execute_completed_iff.mp h
      exact ⟨_, [], (List.append_nil _).symm, hall.inTime, elapsed_forwardRecords hall⟩
  | rejected name status =>
      obtain ⟨-, passed, v, rest, answers, a, hv, hp, ha, -, -, rfl⟩ := execute_rejected_iff.mp h
      refine ⟨passed ++ [v], rest, by simpa using hv, ?_, ?_⟩
      · intro u hu
        rcases List.mem_append.mp hu with hu | hu
        · exact hp.inTime u hu
        · rw [List.mem_singleton.mp hu]
          exact ha.toInTime
      · rw [List.map_append, List.map_append, elapsed_forwardRecords hp]
        rfl

/-- No record of a report takes longer than the stage timeout. -/
theorem record_elapsed_le {report : Run} {t : Nat}
    (h : (execute settings invoke route queue payload s).1 = .ok report)
    (ht : settings.stageTimeout = some t) : ∀ r ∈ report.stages, r.elapsedMs ≤ t := by
  obtain ⟨passed, rest, -, hin, helapsed⟩ := exists_inTime_of_report h
  intro r hr
  have hmem : r.elapsedMs ∈ passed.map (Visit.durationMs invoke) :=
    helapsed ▸ List.mem_map_of_mem hr
  obtain ⟨u, hu, hdur⟩ := List.mem_map.mp hmem
  rw [← hdur]
  exact (hin u hu).duration_le_stageTimeout ht

/-- The records of a report take no longer together than the deadline. -/
theorem sum_elapsed_le {report : Run}
    (h : (execute settings invoke route queue payload s).1 = .ok report)
    (hd : settings.deadlineMs = some d) :
    (report.stages.map StageRecord.elapsedMs).sum ≤ d := by
  obtain ⟨passed, rest, hv, hin, helapsed⟩ := exists_inTime_of_report h
  rw [helapsed]
  exact sum_durations_le hv hin hd

/-- Without a deadline no run exceeds it. -/
theorem execute_ne_deadlineExceeded (hd : settings.deadlineMs = none) (name : String)
    (budget : Nat) :
    (execute settings invoke route queue payload s).1 ≠ .error (.deadlineExceeded name budget) := by
  intro h
  obtain ⟨passed, v, rest, -, -, s', hfail⟩ := execute_error_iff.mp h
  cases hfail with
  | deadlineOver _ hd' | deadlineReached _ _ _ hd' => simp [hd] at hd'

/-! ## Runs that are not cancelled -/

/-- Without a cancellation none comes into force, unless a service asks for it. -/
theorem uncancelled_of_mem_visits {startMs : Nat} (hs : s.cancelAtMs = none)
    (hq : ∀ calls, (invoke calls).cancels = false)
    (hv : v ∈ visits invoke startMs queue payload s) : v.session.cancelAtMs = none := by
  induction queue generalizing payload s with
  | nil => simp at hv
  | cons stage queue ih =>
      rw [visits_cons, List.mem_cons] at hv
      rcases hv with rfl | hv
      · exact hs
      · refine ih ?_ hv
        simp [Visit.after, Visit.leave, Visit.cancelAtMs, Visit.reaction, hq, Stage.visit, hs]

/-- The run goes by what comes of the call of a visit. An error and a status without
directive abort it, a rejection ends it, and a status that leads on hands the answer
to the next stage or, at the end of the queue, completes the run. -/
def GoesBy (settings : PipelineSettings) (invoke : Invoker) (route : String) (v : Visit)
    (rest : List Visit) (result : Except PipelineError Run) : Prop :=
  match (v.reaction invoke).result with
  | .error e => result = .error (v.stage.callError e)
  | .ok a =>
    match v.stage.routing.resolve a.status with
    | none => result = .error (.config (.unroutedStatus v.stage.name a.status))
    | some .terminate =>
      ∃ records, result = .ok ⟨route, .rejected v.stage.name a.status, records⟩
    | some .forward =>
      v.Forwards settings invoke ∧
        (rest = [] →
          ∃ records, result = .ok ⟨route, .completed (v.payloadAfter invoke) a.status, records⟩) ∧
        ∀ w later, rest = w :: later →
          w.payload = v.payloadAfter invoke ∧ w.session = v.after invoke

/-- The next visit finds what the answer to the one before leaves. -/
theorem visit_next {w : Visit} {later : List Visit}
    (hv : visits invoke s.nowMs queue payload s = passed ++ v :: w :: later) :
    w.payload = v.payloadAfter invoke ∧ w.session = v.after invoke := by
  have hmet := met_of_visits_eq_append hv
  rw [← List.singleton_append, ← List.append_assoc] at hv
  have hnext := met_of_visits_eq_append hv
  constructor
  · rw [hnext.payload, List.filterMap_append, latestBody_append, ← hmet.payload,
      ← Visit.payloadAfter_eq]
  · rw [hnext.session]
    simp [sessionAfter]

/-- What comes of a call in time is used. -/
theorem goesBy_of_inTime (hv : visits invoke s.nowMs queue payload s = passed ++ v :: rest)
    (hp : ∀ u ∈ passed, u.Forwards settings invoke) (ht : v.InTime settings invoke) :
    GoesBy settings invoke route v rest (execute settings invoke route queue payload s).1 := by
  obtain ⟨answers, hall⟩ := exists_allForward_iff.mpr hp
  unfold GoesBy
  cases hr : (v.reaction invoke).result with
  | error e =>
      cases e with
      | invalidRequest reason => rw [execute_of_fails hv hall (.unusable ht hr)]; rfl
      | transport reason => rw [execute_of_fails hv hall (.unreachable ht hr)]; rfl
  | ok a =>
      simp only
      cases hn : v.stage.routing.resolve a.status with
      | none => rw [execute_of_fails hv hall (.unrouted ht hr hn)]
      | some d =>
          cases d with
          | terminate =>
              rw [execute_of_terminate hv hall ⟨ht, hr, hn⟩]
              exact ⟨_, rfl⟩
          | forward =>
              refine ⟨⟨a, ht, hr, hn⟩, ?_, ?_⟩
              · rintro rfl
                have hlast : v.Directs settings invoke .forward a := ⟨ht, hr, hn⟩
                have hwhole := hall.snoc hlast
                rw [← hv] at hwhole
                have hfinal : latestBody payload (answers ++ [a]) = v.payloadAfter invoke := by
                  rw [latestBody_append, Visit.payloadAfter_eq,
                    (met_of_visits_eq_append hv).payload, hall.filterMap_answer?,
                    List.filterMap_cons, Visit.answer?_of_directs hlast]
                  rfl
                rw [execute_of_allForward hwhole, hfinal, List.getLast?_concat]
                exact ⟨_, rfl⟩
              · rintro w later rfl
                exact visit_next hv

/-- A call that goes past its limit is cut off there, and the run ends with the error of whichever
limit it was. -/
theorem execute_of_late (hv : visits invoke s.nowMs queue payload s = passed ++ v :: rest)
    (hp : ∀ u ∈ passed, u.Forwards settings invoke) (hs : v.Starts settings)
    (hu : v.Undisturbed settings invoke) (hw : ¬ v.WithinLimit settings invoke) :
    (∀ d, settings.deadlineMs = some d → settings.DeadlineFirst v.elapsedMs →
      (execute settings invoke route queue payload s).1 =
        .error (.deadlineExceeded v.stage.name d)) ∧
    (¬ settings.DeadlineFirst v.elapsedMs → ∃ t, settings.stageTimeoutMs = some t ∧
      (execute settings invoke route queue payload s).1 =
        .error (.serviceUnavailable v.stage.name v.stage.service.uri
          s!"timed out after {t}ms")) := by
  obtain ⟨answers, hall⟩ := exists_allForward_iff.mpr hp
  constructor
  · intro d hd hf
    rw [execute_of_fails hv hall (.deadlineReached hs hu hw hd hf)]
  · intro hf
    obtain ⟨l, hl, -⟩ := Visit.not_within_iff.mp hw
    have ht := PipelineSettings.stageTimeout_of_not_deadlineFirst hl hf
    rw [execute_of_fails hv hall (.timedOut hs hu hw ht hf)]
    exact ⟨l, (PipelineSettings.stageTimeout_eq_some.mp ht).1, rfl⟩

/-- In a run that is not cancelled, a stage that would start at the deadline is not
called. A stage that starts earlier is called; what comes of it within its limit is
used, and past its limit the deadline is exceeded if it is strictly sooner than the
stage timeout, else the stage is timed out. So a run ends by its deadline, no record
takes longer than the stage timeout, all records together take no longer than the
deadline, and no deadline is exceeded that is not set. -/
theorem execute_limits (settings : PipelineSettings) (invoke : Invoker) (route : String)
    (queue : List Stage) (payload : ByteArray) (s : Session) (hs : s.cancelAtMs = none)
    (hq : ∀ calls, (invoke calls).cancels = false) :
    let result := execute settings invoke route queue payload s
    (∀ passed v rest, visits invoke s.nowMs queue payload s = passed ++ v :: rest →
      (∀ u ∈ passed, u.Forwards settings invoke) →
      v.session.nowMs = s.nowMs + v.elapsedMs ∧
      (∀ d, settings.deadlineMs = some d → d ≤ v.elapsedMs →
        result.1 = .error (.deadlineExceeded v.stage.name d) ∧
          result.2.calls = v.session.calls) ∧
      ((∀ d, settings.deadlineMs = some d → v.elapsedMs < d) →
        v.call :: v.session.calls <:+ result.2.calls ∧
        (v.WithinLimit settings invoke → GoesBy settings invoke route v rest result.1) ∧
        (∀ l, settings.limit? v.elapsedMs = some l → l < v.durationMs invoke →
          (∀ d, settings.deadlineMs = some d → settings.DeadlineFirst v.elapsedMs →
            result.1 = .error (.deadlineExceeded v.stage.name d)) ∧
          (¬ settings.DeadlineFirst v.elapsedMs → ∃ t, settings.stageTimeoutMs = some t ∧
            result.1 = .error (.serviceUnavailable v.stage.name v.stage.service.uri
              s!"timed out after {t}ms"))))) ∧
    (∀ d, settings.deadlineMs = some d → result.2.nowMs ≤ s.nowMs + d) ∧
    (∀ report, result.1 = .ok report →
      (∀ t, settings.stageTimeout = some t → ∀ r ∈ report.stages, r.elapsedMs ≤ t) ∧
      ∀ d, settings.deadlineMs = some d →
        (report.stages.map StageRecord.elapsedMs).sum ≤ d) ∧
    (settings.deadlineMs = none → ∀ name budget,
      result.1 ≠ .error (.deadlineExceeded name budget)) := by
  intro result
  refine ⟨?_, fun d hd => execute_now_le route queue payload s hd,
    fun report h => ⟨fun t ht => record_elapsed_le h ht, fun d hd => sum_elapsed_le h hd⟩,
    fun hd => execute_ne_deadlineExceeded hd⟩
  intro passed v rest hv hp
  have hmet := met_of_visits_eq_append hv
  have hmem : v ∈ visits invoke s.nowMs queue payload s := by simp [hv]
  have hnone := uncancelled_of_mem_visits hs hq hmem
  have hlive : v.session.isCancelled = false := by simp [Session.isCancelled, hnone]
  have hu : v.Undisturbed settings invoke := by
    intro c hc
    simp [Visit.cancelAtMs, Visit.reaction, hq, hnone] at hc
  refine ⟨?_, ?_, ?_⟩
  · have hnow := hmet.now
    rw [hmet.elapsed]
    omega
  · intro d hd hle
    obtain ⟨answers, hall⟩ := exists_allForward_iff.mpr hp
    rw [show result = _ from execute_of_fails hv hall (.deadlineOver hlive hd hle)]
    exact ⟨rfl, rfl⟩
  · intro hopen
    have hstarts : v.Starts settings := ⟨hlive, hopen⟩
    refine ⟨?_, fun hw => goesBy_of_inTime hv hp ⟨hstarts, hw, hu⟩, ?_⟩
    · obtain ⟨made, hmade, hcalls⟩ := exists_made settings invoke route queue payload s
      obtain ⟨tail, rfl⟩ := (hmade.iff_starts passed v rest hv).mpr ⟨hp, hstarts⟩
      exact ⟨(tail.map Visit.call).reverse, by simp [result, hcalls, hmet.calls]⟩
    · intro l hl hlt
      exact execute_of_late hv hp hstarts hu (Visit.not_within_iff.mpr ⟨l, hl, hlt⟩)

def passingStage (name : String) : Stage := ⟨name, default, RoutingTable.empty.otherwise .forward⟩

/-- Services of which the first answers after 10 ms and all others after 2000 ms. -/
def slowingServices : Invoker := fun calls =>
  ⟨.ok ⟨204, .empty⟩, if calls.length ≤ 1 then 10 else 2000, false⟩

/-- The second stage has 140 ms left until the deadline. That is less than the stage
timeout, and less than its service takes. -/
theorem execute_limits_slowingServices :
    (Session.start none).cancelAtMs = none ∧
      (∀ calls, (slowingServices calls).cancels = false) ∧
      (execute ⟨some 10000, some 150, 204⟩ slowingServices "orders"
        [passingStage "first", passingStage "second"] .empty (.start none)).1 =
          .error (.deadlineExceeded "second" 150) := by
  refine ⟨rfl, fun _ => rfl, ?_⟩
  have hlimits := execute_limits ⟨some 10000, some 150, 204⟩ slowingServices "orders"
    [passingStage "first", passingStage "second"] .empty (.start none) rfl fun _ => rfl
  have hfirst : ((passingStage "first").visit 0 .empty (.start none)).Forwards
      ⟨some 10000, some 150, 204⟩ slowingServices := by
    refine ⟨⟨204, .empty⟩, ⟨⟨⟨rfl, ?_⟩, ?_, ?_⟩, rfl, rfl⟩⟩
    · rintro d ⟨⟩
      decide
    · rintro l ⟨⟩
      decide
    · rintro c ⟨⟩
  obtain ⟨-, -, hcalled⟩ := hlimits.1 [_] _ [] rfl (List.forall_mem_singleton.mpr hfirst)
  obtain ⟨-, -, hlate⟩ := hcalled (by rintro d ⟨⟩; decide)
  exact (hlate 140 rfl (by decide)).1 150 rfl ⟨150, rfl, by rintro t ⟨⟩; decide⟩

end Pipeline

end StageRelay
