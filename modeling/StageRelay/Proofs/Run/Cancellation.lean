import StageRelay.Proofs.Lists
import StageRelay.Proofs.Run.Calls

/-!
# Cancelled runs

A run that is cancelled at an instant is compared with the run that is not. Up to
that instant both meet the same stages in the same way; `Session.cancelledAt` and
`Visit.cancelledAt` relate what they meet. So a run that ends before the instant is
not affected at all, and any other is cut off in the stage that is in flight.
-/

namespace StageRelay

def Session.cancelledAt (s : Session) (x : Nat) : Session :=
  { s with cancelAtMs := some (s.cancelAtMs.elim x (min x)) }

/-- Before the instant a further cancellation shows in nothing. -/
theorem Session.isCancelled_cancelledAt {s : Session} {x : Nat} (hx : s.nowMs < x) :
    (s.cancelledAt x).isCancelled = s.isCancelled := by
  rw [Bool.eq_iff_iff]
  cases hc : s.cancelAtMs with
  | none => simpa [cancelledAt, isCancelled, hc] using hx
  | some c =>
      simp only [cancelledAt, isCancelled, hc, Option.elim_some, Option.any_some,
        decide_eq_true_eq]
      omega

namespace Visit

def cancelledAt (v : Visit) (x : Nat) : Visit := { v with session := v.session.cancelledAt x }

variable {settings : PipelineSettings} {invoke : Invoker} {v : Visit} {x : Nat}

theorem cancelAtMs_cancelledAt (invoke : Invoker) (v : Visit) (x : Nat) :
    (v.cancelledAt x).cancelAtMs invoke = some ((v.cancelAtMs invoke).elim x (min x)) := by
  have hreaction : (v.cancelledAt x).reaction invoke = v.reaction invoke := rfl
  rw [cancelAtMs, cancelAtMs, hreaction]
  cases hc : v.session.cancelAtMs <;>
    by_cases hr : (v.reaction invoke).cancels <;>
    simp [cancelledAt, Session.cancelledAt, hc, hr, Nat.min_comm, Nat.min_left_comm]

theorem leave_cancelledAt (invoke : Invoker) (v : Visit) (x instant : Nat) :
    (v.cancelledAt x).leave invoke instant = (v.leave invoke instant).cancelledAt x := by
  rw [leave, cancelAtMs_cancelledAt]
  rfl

theorem after_cancelledAt (invoke : Invoker) (v : Visit) (x : Nat) :
    (v.cancelledAt x).after invoke = (v.after invoke).cancelledAt x :=
  leave_cancelledAt invoke v x _

/-- Before the cancellation the same stages start. -/
theorem starts_cancelledAt_iff (hx : v.session.nowMs < x) :
    (v.cancelledAt x).Starts settings ↔ v.Starts settings := by
  have hsame := Session.isCancelled_cancelledAt hx
  constructor
  · rintro ⟨hcancel, hopen⟩
    exact ⟨hsame ▸ hcancel, hopen⟩
  · rintro ⟨hcancel, hopen⟩
    exact ⟨hsame.trans hcancel, hopen⟩

/-- A call that is over by the cancellation is not disturbed by it. -/
theorem undisturbed_cancelledAt (hend : v.endMs settings invoke ≤ x)
    (hu : v.Undisturbed settings invoke) : (v.cancelledAt x).Undisturbed settings invoke := by
  intro c hc
  rw [cancelAtMs_cancelledAt, Option.some.injEq] at hc
  show v.endMs settings invoke ≤ c
  cases hv : v.cancelAtMs invoke with
  | none => simpa [hv, ← hc] using hend
  | some c' =>
      have hle := hu c' hv
      simp only [hv, Option.elim_some] at hc
      omega

theorem inTime_cancelledAt (hx : v.session.nowMs < x) (hend : v.endMs settings invoke ≤ x)
    (ht : v.InTime settings invoke) : (v.cancelledAt x).InTime settings invoke :=
  ⟨(starts_cancelledAt_iff hx).mpr ht.toStarts, ht.within,
    undisturbed_cancelledAt hend ht.undisturbed⟩

theorem directs_cancelledAt {d : Directive} {a : Answer} (hx : v.session.nowMs < x)
    (hend : v.endMs settings invoke ≤ x) (h : v.Directs settings invoke d a) :
    (v.cancelledAt x).Directs settings invoke d a :=
  ⟨inTime_cancelledAt hx hend h.toInTime, h.result, h.routed⟩

/-- A cancellation that comes before the end of the call is met whether or not there
is a later one. -/
theorem cancelledAt_of_disturbed {c : Nat} (hc : v.cancelAtMs invoke = some c) (h : c ≤ x) :
    (v.cancelledAt x).cancelAtMs invoke = some c := by
  rw [cancelAtMs_cancelledAt, hc, Option.elim_some, Nat.min_eq_right h]

/-- A visit that fails before the cancellation fails in the same way with it. -/
theorem fails_cancelledAt {e : PipelineError} {s : Session} (hx : v.session.nowMs < x)
    (hend : v.Starts settings → v.endMs settings invoke ≤ x)
    (h : v.Fails settings invoke e s) :
    (v.cancelledAt x).Fails settings invoke e (s.cancelledAt x) := by
  have hsame : (v.cancelledAt x).session.isCancelled = v.session.isCancelled :=
    Session.isCancelled_cancelledAt hx
  cases h with
  | cancelledBefore h => exact .cancelledBefore (hsame.trans h)
  | deadlineOver hc hd h => exact .deadlineOver (hsame.trans hc) hd h
  | cancelledMeanwhile hs hc h =>
      rw [← leave_cancelledAt]
      exact .cancelledMeanwhile ((starts_cancelledAt_iff hx).mpr hs)
        (cancelledAt_of_disturbed hc (Nat.le_trans (Nat.le_of_lt h) (hend hs))) h
  | deadlineReached hs hu hw hd hf =>
      rw [← leave_cancelledAt]
      exact .deadlineReached ((starts_cancelledAt_iff hx).mpr hs)
        (undisturbed_cancelledAt (hend hs) hu) hw hd hf
  | timedOut hs hu hw ht hf =>
      rw [← leave_cancelledAt]
      exact .timedOut ((starts_cancelledAt_iff hx).mpr hs)
        (undisturbed_cancelledAt (hend hs) hu) hw ht hf
  | unreachable ht hr =>
      rw [← after_cancelledAt]
      exact .unreachable (inTime_cancelledAt hx (hend ht.toStarts) ht) hr
  | unusable ht hr =>
      rw [← after_cancelledAt]
      exact .unusable (inTime_cancelledAt hx (hend ht.toStarts) ht) hr
  | unrouted ht hr hn =>
      rw [← after_cancelledAt]
      exact .unrouted (inTime_cancelledAt hx (hend ht.toStarts) ht) hr hn

end Visit

namespace Pipeline

variable {settings : PipelineSettings} {invoke : Invoker} {route : String} {queue : List Stage}
variable {payload : ByteArray} {s : Session} {x startMs : Nat}
variable {passed rest : List Visit} {answers : List Answer} {v : Visit}

/-! ## The clock does not go back -/

theorem now_le_runStages (settings : PipelineSettings) (invoke : Invoker) (startMs : Nat)
    (queue : List Stage) (c : Carried) (s : Session) :
    s.nowMs ≤ (runStages settings invoke startMs queue c s).2.nowMs := by
  induction queue generalizing c s with
  | nil => exact Nat.le_refl _
  | cons stage queue ih =>
      rcases (stage.visit startMs c.payload s).forwards_or_rejects_or_fails settings invoke with
        ⟨a, ha⟩ | ⟨a, ha⟩ | ⟨e, s', hfail⟩
      · rw [runStages_of_forward ha]
        have hstep : s.nowMs ≤ ((stage.visit startMs c.payload s).after invoke).nowMs :=
          Nat.le_add_right _ _
        exact Nat.le_trans hstep (ih (c.absorb a) _)
      · rw [runStages_of_terminate ha]
        exact Nat.le_add_right _ _
      · rw [runStages_of_fails hfail]
        exact hfail.le_now

/-- Behind stages that forward, a run ends no earlier than their answers, so that what comes before
one of these answers comes before the end of the run. -/
theorem now_le_execute (route : String)
    (hv : visits invoke s.nowMs queue payload s = passed ++ rest)
    (hp : AllForward settings invoke passed answers) :
    (sessionAfter invoke s passed).nowMs ≤
      (execute settings invoke route queue payload s).2.nowMs := by
  obtain ⟨pre, post, rfl, rfl, -⟩ := exists_of_visits_eq_append hv
  have hrun : runStages settings invoke s.nowMs (pre ++ post) (.start payload) s = _ :=
    runStages_append hp
  rw [session_execute, hrun]
  exact now_le_runStages settings invoke s.nowMs post _ _

/-! ## The visits of a cancelled run -/

theorem visits_cancelledAt (invoke : Invoker) (startMs : Nat) (queue : List Stage)
    (payload : ByteArray) (s : Session) (x : Nat) :
    visits invoke startMs queue payload (s.cancelledAt x) =
      (visits invoke startMs queue payload s).map (·.cancelledAt x) := by
  induction queue generalizing payload s with
  | nil => rfl
  | cons stage queue ih =>
      rw [visits_cons, visits_cons, List.map_cons, ← ih, ← Visit.after_cancelledAt]
      rfl

theorem sessionAfter_cancelledAt (invoke : Invoker) (s : Session) (passed : List Visit) (x : Nat) :
    sessionAfter invoke (s.cancelledAt x) (passed.map (·.cancelledAt x)) =
      (sessionAfter invoke s passed).cancelledAt x := by
  rw [sessionAfter, sessionAfter, List.getLast?_map]
  cases passed.getLast? with
  | none => rfl
  | some v => exact Visit.after_cancelledAt invoke v x

theorem forwardRecords_cancelledAt (invoke : Invoker) (passed : List Visit)
    (answers : List Answer) (x : Nat) :
    forwardRecords invoke (passed.map (·.cancelledAt x)) answers =
      forwardRecords invoke passed answers := by
  rw [forwardRecords, List.zipWith_map_left]
  rfl

/-- Visits whose calls are over before the cancellation forward as without it. -/
theorem allForward_cancelledAt (hp : AllForward settings invoke passed answers)
    (hover : ∀ u ∈ passed, u.endMs settings invoke < x) :
    AllForward settings invoke (passed.map (·.cancelledAt x)) answers := by
  induction hp with
  | nil => exact .nil
  | @cons u a _ _ hu _ ih =>
      obtain ⟨hend, hover⟩ := List.forall_mem_cons.mp hover
      have hnow : u.session.nowMs < x := Nat.lt_of_le_of_lt (Nat.le_add_right _ _) hend
      exact .cons (Visit.directs_cancelledAt hnow (Nat.le_of_lt hend) hu) (ih hover)

/-! ## Calls that are over before the cancellation -/

theorem after_now_lt (ht : v.InTime settings invoke) (hend : v.endMs settings invoke < x) :
    (v.after invoke).nowMs < x := by
  rw [Visit.endMs_of_within ht.within] at hend
  exact hend

theorem sessionAfter_now_lt (hp : AllForward settings invoke passed answers) (hx : s.nowMs < x)
    (hend : ∀ u ∈ passed, u.endMs settings invoke < x) :
    (sessionAfter invoke s passed).nowMs < x := by
  rcases List.eq_nil_or_concat passed with rfl | ⟨before, u, rfl⟩
  · exact hx
  · have hu : u ∈ before.concat u := by simp
    have hlast : sessionAfter invoke s (before.concat u) = u.after invoke := by
      simp [sessionAfter]
    rw [hlast]
    exact after_now_lt (hp.inTime u hu) (hend u hu)

private theorem visits_split_cancelledAt (x : Nat)
    (hv : visits invoke s.nowMs queue payload s = passed ++ v :: rest) :
    visits invoke (s.cancelledAt x).nowMs queue payload (s.cancelledAt x) =
      passed.map (·.cancelledAt x) ++ v.cancelledAt x :: rest.map (·.cancelledAt x) := by
  show visits invoke s.nowMs queue payload (s.cancelledAt x) = _
  rw [visits_cancelledAt, hv, List.map_append, List.map_cons]

/-- A cancellation after all calls of a run changes nothing about the run, as no call is disturbed
by it and no stage is met behind it. -/
theorem execute_cancelledAt_of_over {made : List Visit}
    (hmade : Made settings invoke (visits invoke s.nowMs queue payload s) made)
    (hx : s.nowMs < x) (hend : ∀ u ∈ made, u.endMs settings invoke < x) :
    execute settings invoke route queue payload (s.cancelledAt x) =
        ((execute settings invoke route queue payload s).1,
          (execute settings invoke route queue payload s).2.cancelledAt x) ∧
      (execute settings invoke route queue payload s).2.nowMs < x := by
  rcases allForward_or_stop settings invoke (visits invoke s.nowMs queue payload s) with
    ⟨answers, hall⟩ | ⟨passed, v, rest, answers, hv, hp, hstop⟩
  · have hforwards := exists_allForward_iff.mp ⟨answers, hall⟩
    have hpassed := fun u hu =>
      hend u (hmade.mem_of_forwards (List.append_nil _).symm hforwards u hu)
    have hall' := allForward_cancelledAt hall hpassed
    rw [← visits_cancelledAt] at hall'
    rw [execute_of_allForward hall, execute_of_allForward hall']
    refine ⟨?_, sessionAfter_now_lt hall hx hpassed⟩
    show (Except.ok (Run.mk route _ (forwardRecords invoke
      (visits invoke s.nowMs queue payload (s.cancelledAt x)) answers)),
      sessionAfter invoke (s.cancelledAt x)
        (visits invoke s.nowMs queue payload (s.cancelledAt x))) = _
    rw [visits_cancelledAt, forwardRecords_cancelledAt, sessionAfter_cancelledAt]
  · have hforwards := exists_allForward_iff.mp ⟨answers, hp⟩
    have hpassed := fun u hu => hend u (hmade.mem_of_forwards hv hforwards u hu)
    have hlast := fun hs => hend v (hmade.mem_of_starts hv hforwards hs)
    have hnow : v.session.nowMs < x := by
      rw [(met_of_visits_eq_append hv).session]
      exact sessionAfter_now_lt hp hx hpassed
    have hv' := visits_split_cancelledAt x hv
    have hp' := allForward_cancelledAt hp hpassed
    rcases hstop with ⟨a, ha⟩ | ⟨e, s', hfail⟩
    · rw [execute_of_terminate hv hp ha, execute_of_terminate hv' hp'
        (Visit.directs_cancelledAt hnow (Nat.le_of_lt (hlast ha.toStarts)) ha),
        forwardRecords_cancelledAt, Visit.after_cancelledAt]
      exact ⟨rfl, after_now_lt ha.toInTime (hlast ha.toStarts)⟩
    · rw [execute_of_fails hv hp hfail, execute_of_fails hv' hp'
        (Visit.fails_cancelledAt hnow (fun hs => Nat.le_of_lt (hlast hs)) hfail)]
      refine ⟨rfl, ?_⟩
      show s'.nowMs < x
      rcases hfail.now_le with hle | ⟨hs, hle⟩
      · exact Nat.lt_of_le_of_lt hle hnow
      · exact Nat.lt_of_le_of_lt hle (hlast hs)

/-! ## A call that the cancellation meets -/

/-- Of the calls that are not over before an instant there is a first one. -/
theorem over_or_exists_first (settings : PipelineSettings) (invoke : Invoker) (x : Nat)
    (vs : List Visit) :
    (∀ u ∈ vs, u.endMs settings invoke < x) ∨
      ∃ before v later, vs = before ++ v :: later ∧
        (∀ u ∈ before, u.endMs settings invoke < x) ∧ x ≤ v.endMs settings invoke := by
  rcases forall_or_first (fun u => u.endMs settings invoke < x) vs with
    hover | ⟨before, v, later, rfl, hover, hend⟩
  · exact .inl hover
  · exact .inr ⟨before, v, later, rfl, hover, Nat.not_lt.mp hend⟩

/-- A run does not end before a call that nothing disturbs until then. -/
theorem le_now_execute (route : String)
    (hv : visits invoke s.nowMs queue payload s = passed ++ v :: rest)
    (hp : AllForward settings invoke passed answers) (hs : v.Starts settings)
    (hend : x ≤ v.endMs settings invoke) (hu : ∀ c, v.cancelAtMs invoke = some c → x ≤ c) :
    x ≤ (execute settings invoke route queue payload s).2.nowMs := by
  rcases v.forwards_or_rejects_or_fails settings invoke with ⟨a, ha⟩ | ⟨a, ha⟩ | ⟨e, s', hfail⟩
  · have hv' : visits invoke s.nowMs queue payload s = (passed ++ [v]) ++ rest := by simp [hv]
    have hlast : sessionAfter invoke s (passed ++ [v]) = v.after invoke := by simp [sessionAfter]
    have hle := now_le_execute route hv' (hp.snoc ha)
    rw [hlast] at hle
    rw [Visit.endMs_of_within ha.within] at hend
    exact Nat.le_trans hend hle
  · rw [execute_of_terminate hv hp ha]
    rw [Visit.endMs_of_within ha.within] at hend
    exact hend
  · rw [execute_of_fails hv hp hfail]
    show x ≤ s'.nowMs
    rcases hfail.instant hs with hinstant | ⟨c, hc, -, hinstant⟩
    · omega
    · have hle := hu c hc
      omega

/-- A cancellation that falls into a call cuts the run off there, unless the service
has had the run cancelled sooner. -/
theorem execute_cancelledAt_of_meets
    (hv : visits invoke s.nowMs queue payload s = passed ++ v :: rest)
    (hp : AllForward settings invoke passed answers) (hs : v.Starts settings)
    (hover : ∀ u ∈ passed, u.endMs settings invoke < x) (hnow : v.session.nowMs < x)
    (hend : x < v.endMs settings invoke) :
    (execute settings invoke route queue payload (s.cancelledAt x) =
        ((execute settings invoke route queue payload s).1,
          (execute settings invoke route queue payload s).2.cancelledAt x) ∧
      (execute settings invoke route queue payload s).2.nowMs < x) ∨
    (execute settings invoke route queue payload (s.cancelledAt x) =
        (.error (.cancelled v.stage.name), (v.leave invoke x).cancelledAt x) ∧
      x ≤ (execute settings invoke route queue payload s).2.nowMs) := by
  have hv' := visits_split_cancelledAt x hv
  have hp' := allForward_cancelledAt hp hover
  have hs' := (Visit.starts_cancelledAt_iff hnow).mpr hs
  by_cases hu : ∀ c, v.cancelAtMs invoke = some c → x ≤ c
  · refine .inr ⟨?_, le_now_execute route hv hp hs (Nat.le_of_lt hend) hu⟩
    have hcancel : (v.cancelledAt x).cancelAtMs invoke = some x := by
      rw [Visit.cancelAtMs_cancelledAt]
      cases hc : v.cancelAtMs invoke with
      | none => rfl
      | some c => rw [Option.elim_some, Nat.min_eq_left (hu c hc)]
    rw [execute_of_fails hv' hp' (.cancelledMeanwhile hs' hcancel hend),
      Visit.leave_cancelledAt]
    rfl
  · simp only [Classical.not_forall, Nat.not_le] at hu
    obtain ⟨c, hc, hlt⟩ := hu
    have hfail : v.Fails settings invoke (.cancelled v.stage.name) (v.leave invoke c) :=
      .cancelledMeanwhile hs hc (Nat.lt_trans hlt hend)
    have hfail' : (v.cancelledAt x).Fails settings invoke (.cancelled v.stage.name)
        ((v.cancelledAt x).leave invoke c) :=
      .cancelledMeanwhile hs' (Visit.cancelledAt_of_disturbed hc (Nat.le_of_lt hlt))
        (Nat.lt_trans hlt hend)
    rw [execute_of_fails hv hp hfail, execute_of_fails hv' hp' hfail', Visit.leave_cancelledAt]
    exact .inl ⟨rfl, hlt⟩

/-- The calls that are made by an instant which falls into one of them are that one and
those before it. -/
theorem filter_made {made before later : List Visit}
    (hmade : Made settings invoke (visits invoke s.nowMs queue payload s) made)
    (hsplit : made = before ++ v :: later)
    (hover : ∀ u ∈ before, u.endMs settings invoke < x) (hnow : v.session.nowMs < x)
    (hend : x ≤ v.endMs settings invoke) :
    made.filter (·.session.nowMs < x) = before ++ [v] := by
  have hbefore : ∀ u ∈ before, u.session.nowMs < x := fun u hu =>
    Nat.lt_of_le_of_lt (Nat.le_add_right _ _) (hover u hu)
  have hlater : ∀ w ∈ later, ¬ w.session.nowMs < x := by
    intro w hw
    obtain ⟨first, second, rfl⟩ := List.append_of_mem hw
    obtain ⟨rest, hv, hforwards, -⟩ :=
      hmade.starts_of_eq_append (show made = (before ++ v :: first) ++ w :: second by simp [hsplit])
    obtain ⟨a, ha⟩ := hforwards v (by simp)
    obtain ⟨rest', hv', -⟩ := hmade.starts_of_eq_append hsplit
    have hafter := (met_of_visits_eq_append hv).now
    have hat := (met_of_visits_eq_append hv').now
    rw [Visit.endMs_of_within ha.within, Visit.answerMs] at hend
    simp only [List.map_append, List.map_cons, List.sum_append, List.sum_cons] at hafter
    omega
  have hnone : later.filter (·.session.nowMs < x) = [] :=
    List.filter_eq_nil_iff.mpr fun w hw => by simpa using hlater w hw
  have hall : before.filter (·.session.nowMs < x) = before :=
    List.filter_eq_self.mpr fun u hu => by simpa using hbefore u hu
  rw [hsplit, List.filter_append, List.filter_cons_of_pos (by simpa using hnow), hnone, hall]

/-- A run that is cancelled when it begins calls nothing, and reports the first of its stages as
cancelled. -/
theorem execute_of_isCancelled (settings : PipelineSettings) (invoke : Invoker) (route : String)
    (stage : Stage) (queue : List Stage) (payload : ByteArray) (hs : s.isCancelled = true) :
    execute settings invoke route (stage :: queue) payload s =
      (.error (.cancelled stage.name), s) :=
  execute_of_fails rfl .nil (.cancelledBefore hs)

/-- A cancellation is met as a whole or not at all. A run that ends before it is the
run without it. Any other is cut off at that instant in the stage that is in flight,
and has made the calls that the run without it makes before. A run that is cancelled
from the beginning calls nothing. -/
theorem execute_cancelled (settings : PipelineSettings) (invoke : Invoker) (route : String)
    (queue : List Stage) (payload : ByteArray) (calls : List Call) (nowMs : Nat) :
    let run := fun cancelAtMs =>
      execute settings invoke route queue payload ⟨calls, nowMs, cancelAtMs⟩
    (∃ made : List Visit,
      Made settings invoke (visits invoke nowMs queue payload ⟨calls, nowMs, none⟩) made ∧
      (run none).2.calls = (made.map Visit.call).reverse ++ calls ∧
      ∀ c, nowMs < c → (∀ v ∈ made, v.endMs settings invoke ≠ c) →
        ((run none).2.nowMs < c →
          (run (some c)).1 = (run none).1 ∧ (run (some c)).2.calls = (run none).2.calls ∧
            (run (some c)).2.nowMs = (run none).2.nowMs) ∧
        (c ≤ (run none).2.nowMs →
          ∃ v ∈ made, v.session.nowMs < c ∧ c < v.endMs settings invoke ∧
            (run (some c)).1 = .error (.cancelled v.stage.name) ∧
            (run (some c)).2.nowMs = c ∧
            (run (some c)).2.calls =
              ((made.filter (·.session.nowMs < c)).map Visit.call).reverse ++ calls)) ∧
    ∀ c stage rest, c ≤ nowMs → queue = stage :: rest →
      run (some c) = (.error (.cancelled stage.name), ⟨calls, nowMs, some c⟩) := by
  intro run
  constructor
  · obtain ⟨made, hmade, hcalls⟩ :=
      exists_made settings invoke route queue payload ⟨calls, nowMs, none⟩
    refine ⟨made, hmade, hcalls, ?_⟩
    intro c hc hne
    have hcancelled : run (some c) =
        execute settings invoke route queue payload (Session.cancelledAt ⟨calls, nowMs, none⟩ c) :=
      rfl
    rcases over_or_exists_first settings invoke c made with
      hover | ⟨before, v, later, hsplit, hover, hend⟩
    · obtain ⟨hrun, hlt⟩ := execute_cancelledAt_of_over hmade hc hover
      rw [hcancelled, hrun]
      exact ⟨fun _ => ⟨rfl, rfl, rfl⟩, fun hle => absurd hlt (Nat.not_lt.mpr hle)⟩
    · have hmem : v ∈ made := by simp [hsplit]
      have hend' : c < v.endMs settings invoke := Nat.lt_of_le_of_ne hend (hne v hmem).symm
      obtain ⟨rest, hv, hforwards, hs⟩ := hmade.starts_of_eq_append hsplit
      obtain ⟨answers, hp⟩ := exists_allForward_iff.mpr hforwards
      have hmet := met_of_visits_eq_append hv
      have hnow : v.session.nowMs < c := by
        rw [hmet.session]
        exact sessionAfter_now_lt hp hc hover
      rcases execute_cancelledAt_of_meets hv hp hs hover hnow hend' with
        ⟨hrun, hlt⟩ | ⟨hrun, hle⟩
      · rw [hcancelled, hrun]
        exact ⟨fun _ => ⟨rfl, rfl, rfl⟩, fun hle => absurd hlt (Nat.not_lt.mpr hle)⟩
      · refine ⟨fun hlt => absurd hlt (Nat.not_lt.mpr hle), fun _ => ⟨v, hmem, hnow, hend', ?_⟩⟩
        rw [hcancelled, hrun, filter_made hmade hsplit hover hnow hend]
        refine ⟨rfl, rfl, ?_⟩
        show v.call :: v.session.calls = _
        simp [hmet.calls]
  · rintro c stage rest hc rfl
    have hlate : Session.isCancelled ⟨calls, nowMs, some c⟩ = true := by
      simpa [Session.isCancelled] using hc
    exact execute_of_isCancelled settings invoke route stage rest payload hlate

end Pipeline

end StageRelay
