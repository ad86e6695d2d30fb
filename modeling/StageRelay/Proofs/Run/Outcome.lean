import StageRelay.Proofs.Run.Course

/-!
# What decides the result of a run

The result of a run is decided by the first stage that does not forward. Without
one the run completes; else it is rejected or aborted there, and the report, the
outcome and the error all speak of that stage.
-/

namespace StageRelay.Pipeline

variable {settings : PipelineSettings} {invoke : Invoker} {route label : String}
variable {queue : List Stage} {payload : ByteArray} {s : Session} {records : List StageRecord}

/-- A run completes exactly when all its stages forward, with the last status, the
latest body and one record for each stage. -/
theorem execute_completed_iff {final : ByteArray} {status : Status} :
    (execute settings invoke route queue payload s).1 =
        .ok ⟨label, .completed final status, records⟩ ↔
      label = route ∧ ∃ answers,
        AllForward settings invoke (visits invoke s.nowMs queue payload s) answers ∧
        final = latestBody payload answers ∧
        status = (answers.getLast?.map Answer.status).getD settings.emptyQueueStatus ∧
        records = forwardRecords invoke (visits invoke s.nowMs queue payload s) answers := by
  constructor
  · intro h
    rcases allForward_or_stop settings invoke (visits invoke s.nowMs queue payload s) with
      ⟨answers, hall⟩ | ⟨passed, v, rest, answers, hv, hp, ⟨a, ha⟩ | ⟨e, s', hfail⟩⟩
    · rw [execute_of_allForward hall] at h
      simp only [Except.ok.injEq, Run.mk.injEq, Outcome.completed.injEq] at h
      obtain ⟨rfl, ⟨rfl, rfl⟩, rfl⟩ := h
      exact ⟨rfl, answers, hall, rfl, rfl, rfl⟩
    · rw [execute_of_terminate hv hp ha] at h
      simp at h
    · rw [execute_of_fails hv hp hfail] at h
      simp at h
  · rintro ⟨rfl, answers, hall, rfl, rfl, rfl⟩
    rw [execute_of_allForward hall]

/-- A run is rejected exactly when the first stage that does not forward rejects. The
records are those of the stages up to it. -/
theorem execute_rejected_iff {name : String} {status : Status} :
    (execute settings invoke route queue payload s).1 =
        .ok ⟨label, .rejected name status, records⟩ ↔
      label = route ∧ ∃ passed v rest answers a,
        visits invoke s.nowMs queue payload s = passed ++ v :: rest ∧
        AllForward settings invoke passed answers ∧ v.Directs settings invoke .terminate a ∧
        name = v.stage.name ∧ status = a.status ∧
        records = forwardRecords invoke passed answers ++ [v.record invoke .terminate a] := by
  constructor
  · intro h
    rcases allForward_or_stop settings invoke (visits invoke s.nowMs queue payload s) with
      ⟨answers, hall⟩ | ⟨passed, v, rest, answers, hv, hp, ⟨a, ha⟩ | ⟨e, s', hfail⟩⟩
    · rw [execute_of_allForward hall] at h
      simp at h
    · rw [execute_of_terminate hv hp ha] at h
      simp only [Except.ok.injEq, Run.mk.injEq, Outcome.rejected.injEq] at h
      obtain ⟨rfl, ⟨rfl, rfl⟩, rfl⟩ := h
      exact ⟨rfl, passed, v, rest, answers, a, hv, hp, ha, rfl, rfl, rfl⟩
    · rw [execute_of_fails hv hp hfail] at h
      simp at h
  · rintro ⟨rfl, passed, v, rest, answers, a, hv, hp, ha, rfl, rfl, rfl⟩
    rw [execute_of_terminate hv hp ha]

/-- An aborted run is aborted by the first stage that does not forward, and ends where that
stage fails. -/
theorem exists_fails_of_execute_eq_error {e : PipelineError}
    (h : (execute settings invoke route queue payload s).1 = .error e) :
    ∃ passed v rest, visits invoke s.nowMs queue payload s = passed ++ v :: rest ∧
      (∀ u ∈ passed, u.Forwards settings invoke) ∧
      v.Fails settings invoke e (execute settings invoke route queue payload s).2 := by
  rcases allForward_or_stop settings invoke (visits invoke s.nowMs queue payload s) with
    ⟨answers, hall⟩ | ⟨passed, v, rest, answers, hv, hp, ⟨a, ha⟩ | ⟨e', s', hfail⟩⟩
  · rw [execute_of_allForward hall] at h
    simp at h
  · rw [execute_of_terminate hv hp ha] at h
    simp at h
  · rw [execute_of_fails hv hp hfail] at h ⊢
    obtain rfl : e' = e := by simpa using h
    exact ⟨passed, v, rest, hv, exists_allForward_iff.mp ⟨answers, hp⟩, hfail⟩

/-- A run is aborted exactly when the first stage that does not forward fails, with
the error of that stage. -/
theorem execute_error_iff {e : PipelineError} :
    (execute settings invoke route queue payload s).1 = .error e ↔
      ∃ passed v rest, visits invoke s.nowMs queue payload s = passed ++ v :: rest ∧
        (∀ u ∈ passed, u.Forwards settings invoke) ∧ ∃ s', v.Fails settings invoke e s' := by
  constructor
  · intro h
    obtain ⟨passed, v, rest, hv, hforwards, hfail⟩ := exists_fails_of_execute_eq_error h
    exact ⟨passed, v, rest, hv, hforwards, _, hfail⟩
  · rintro ⟨passed, v, rest, hv, hforwards, s', hfail⟩
    obtain ⟨answers, hp⟩ := exists_allForward_iff.mpr hforwards
    rw [execute_of_fails hv hp hfail]

/-- The first stage that does not forward decides the result of a run. Without one the
run completes with a record for each stage; a stage that rejects ends the report; a
stage that fails gives its error. A run without stages completes in any case. -/
theorem execute_decided_by_first_stop (settings : PipelineSettings) (invoke : Invoker)
    (route : String) (queue : List Stage) (payload : ByteArray) (s : Session) :
    let vs := visits invoke s.nowMs queue payload s
    let result := (execute settings invoke route queue payload s).1
    (∀ label final status records,
      result = .ok ⟨label, .completed final status, records⟩ ↔
        label = route ∧ ∃ answers, AllForward settings invoke vs answers ∧
          final = latestBody payload answers ∧
          status = (answers.getLast?.map Answer.status).getD settings.emptyQueueStatus ∧
          records = forwardRecords invoke vs answers) ∧
    (∀ label name status records,
      result = .ok ⟨label, .rejected name status, records⟩ ↔
        label = route ∧ ∃ passed v rest answers a, vs = passed ++ v :: rest ∧
          AllForward settings invoke passed answers ∧
          v.Directs settings invoke .terminate a ∧
          name = v.stage.name ∧ status = a.status ∧
          records = forwardRecords invoke passed answers ++ [v.record invoke .terminate a]) ∧
    (∀ e, result = .error e ↔
      ∃ passed v rest, vs = passed ++ v :: rest ∧
        (∀ u ∈ passed, u.Forwards settings invoke) ∧ ∃ s', v.Fails settings invoke e s') ∧
    (queue = [] → result = .ok ⟨route, .completed payload settings.emptyQueueStatus, []⟩) := by
  refine ⟨fun _ _ _ _ => execute_completed_iff, fun _ _ _ _ => execute_rejected_iff,
    fun _ => execute_error_iff, ?_⟩
  rintro rfl
  exact execute_completed_iff.mpr ⟨rfl, [], .nil, rfl, rfl, rfl⟩

end StageRelay.Pipeline
