import StageRelay.Proofs.Run.Course

/-!
# The calls of a run

A run calls the services of a prefix of its queue, each once and in order. Each
call carries the latest body that the services before it have answered, and it is
made only behind stages that all forward.
-/

namespace StageRelay

namespace Visit

variable {settings : PipelineSettings} {invoke : Invoker} {v : Visit} {a : Answer}
variable {e : PipelineError} {s : Session}

/-- A visit that fails leaves the session as it was if it does not start, and else
adds its call. -/
theorem Fails.calls (h : v.Fails settings invoke e s) :
    (s = v.session ∧ ¬ v.Starts settings) ∨
      (s.calls = v.call :: v.session.calls ∧ v.Starts settings) := by
  cases h with
  | cancelledBefore h =>
      refine .inl ⟨rfl, fun hs => ?_⟩
      have hc := hs.not_cancelled
      simp [h] at hc
  | deadlineOver _ hd h =>
      exact .inl ⟨rfl, fun hs => Nat.not_lt.mpr h (hs.before_deadline _ hd)⟩
  | cancelledMeanwhile hs | deadlineReached hs | timedOut hs => exact .inr ⟨rfl, hs⟩
  | unreachable ht | unusable ht | unrouted ht => exact .inr ⟨rfl, ht.toStarts⟩

/-- A visit that fails leaves the clock where it was if it does not start, and else at
the end of its call or before. -/
theorem Fails.now_le (h : v.Fails settings invoke e s) :
    s.nowMs ≤ v.session.nowMs ∨ (v.Starts settings ∧ s.nowMs ≤ v.endMs settings invoke) := by
  rcases h.calls with ⟨rfl, -⟩ | ⟨-, hs⟩
  · exact .inl (Nat.le_refl _)
  · refine .inr ⟨hs, ?_⟩
    rcases h.instant hs with hinstant | ⟨c, -, hc, hinstant⟩ <;> omega

theorem Fails.not_forwards (h : v.Fails settings invoke e s) : ¬ v.Forwards settings invoke := by
  rintro ⟨a, ha⟩
  have hresult := ha.result
  cases h with
  | cancelledBefore h =>
      have hc := ha.not_cancelled
      simp [h] at hc
  | deadlineOver _ hd h => exact Nat.not_lt.mpr h (ha.before_deadline _ hd)
  | cancelledMeanwhile _ hc h => exact Nat.not_lt.mpr (ha.undisturbed _ hc) h
  | deadlineReached _ _ hw => exact hw ha.within
  | timedOut _ _ hw => exact hw ha.within
  | unreachable _ hr => simp [hr] at hresult
  | unusable _ hr => simp [hr] at hresult
  | unrouted _ hr hn =>
      obtain rfl : _ = a := by simpa [hr] using hresult
      have hrouted := ha.routed
      simp [hn] at hrouted

theorem Directs.not_forwards (h : v.Directs settings invoke .terminate a) :
    ¬ v.Forwards settings invoke := by
  rintro ⟨b, hb⟩
  obtain rfl : a = b := by simpa [h.result] using hb.result
  have hrouted := hb.routed
  simp [h.routed] at hrouted

end Visit

namespace Pipeline

/-- The visits whose calls are made end with one that does not forward, or before one
that does not start. -/
private def EndsMade (settings : PipelineSettings) (invoke : Invoker) (last rest : List Visit) :
    Prop :=
  last = [] ∧ (∀ v ∈ rest.head?, ¬ v.Starts settings) ∨
    ∃ v, last = [v] ∧ v.Starts settings ∧ ¬ v.Forwards settings invoke

/-- The calls of a run are those of the visits that forward and of one more if the
next visit starts. -/
private theorem exists_passed (settings : PipelineSettings) (invoke : Invoker) (route : String)
    (queue : List Stage) (payload : ByteArray) (s : Session) :
    ∃ passed last rest : List Visit,
      visits invoke s.nowMs queue payload s = passed ++ last ++ rest ∧
      (∀ v ∈ passed, v.Forwards settings invoke) ∧
      EndsMade settings invoke last rest ∧
      (execute settings invoke route queue payload s).2.calls =
        ((passed ++ last).map Visit.call).reverse ++ s.calls := by
  rcases allForward_or_stop settings invoke (visits invoke s.nowMs queue payload s) with
    ⟨answers, hall⟩ | ⟨passed, v, rest, answers, hv, hp, hstop⟩
  · refine ⟨_, [], [], by simp, exists_allForward_iff.mp ⟨answers, hall⟩,
      .inl ⟨rfl, by simp⟩, ?_⟩
    rw [execute_of_allForward hall, List.append_nil]
    exact (sessionAfter_visits invoke s.nowMs queue payload s).1
  · have hforwards := exists_allForward_iff.mp ⟨answers, hp⟩
    have hmet := met_of_visits_eq_append hv
    have hcalled : v.call :: v.session.calls =
        ((passed ++ [v]).map Visit.call).reverse ++ s.calls := by
      simp [hmet.calls]
    rcases hstop with ⟨a, ha⟩ | ⟨e, s', hfail⟩
    · refine ⟨passed, [v], rest, by simpa using hv, hforwards,
        .inr ⟨v, rfl, ha.toStarts, ha.not_forwards⟩, ?_⟩
      rw [execute_of_terminate hv hp ha, ← hcalled]
      rfl
    · rcases hfail.calls with ⟨hsame, hs⟩ | ⟨hcall, hs⟩
      · refine ⟨passed, [], v :: rest, by simpa using hv, hforwards,
          .inl ⟨rfl, by simpa using hs⟩, ?_⟩
        rw [execute_of_fails hv hp hfail, List.append_nil, hsame, hmet.calls]
      · refine ⟨passed, [v], rest, by simpa using hv, hforwards,
          .inr ⟨v, rfl, hs, hfail.not_forwards⟩, ?_⟩
        rw [execute_of_fails hv hp hfail, hcall, hcalled]

/-- The visit behind those that forward is made exactly when it starts. -/
private theorem prefix_last_iff {settings : PipelineSettings} {invoke : Invoker}
    {passed last rest later : List Visit} {v : Visit} (hv : v :: later = last ++ rest)
    (hend : EndsMade settings invoke last rest) :
    passed ++ [v] <+: passed ++ last ↔ v.Starts settings := by
  rw [List.prefix_append_right_inj]
  rcases hend with ⟨rfl, hrest⟩ | ⟨u, rfl, hs, -⟩
  · obtain rfl : v :: later = rest := hv
    simpa using hrest v rfl
  · obtain ⟨rfl, -⟩ : v = u ∧ later = rest := by simpa using hv
    simpa using hs

/-- A visit is made exactly when those before it forward and it starts. -/
private theorem prefix_made_iff {settings : PipelineSettings} {invoke : Invoker}
    {passed last rest earlier later : List Visit} {v : Visit}
    (hsplit : earlier ++ v :: later = passed ++ (last ++ rest))
    (hforwards : ∀ u ∈ passed, u.Forwards settings invoke)
    (hend : EndsMade settings invoke last rest) :
    earlier ++ [v] <+: passed ++ last ↔
      (∀ u ∈ earlier, u.Forwards settings invoke) ∧ v.Starts settings := by
  rcases List.append_eq_append_iff.mp hsplit with ⟨as, rfl, hv⟩ | ⟨bs, rfl, hv⟩
  · have hbefore : ∀ u ∈ earlier, u.Forwards settings invoke := fun u hu =>
      hforwards u (List.mem_append_left as hu)
    cases as with
    | nil =>
        rw [List.nil_append] at hv
        rw [List.append_nil, prefix_last_iff hv hend]
        exact ⟨fun hs => ⟨hbefore, hs⟩, fun h => h.2⟩
    | cons u as =>
        obtain ⟨rfl, -⟩ : v = u ∧ _ := by simpa using hv
        obtain ⟨a, ha⟩ := hforwards v (by simp)
        exact ⟨fun _ => ⟨hbefore, ha.toStarts⟩, fun _ => ⟨as ++ last, by simp⟩⟩
  · cases bs with
    | nil =>
        rw [List.append_nil, prefix_last_iff hv.symm hend]
        exact ⟨fun hs => ⟨hforwards, hs⟩, fun h => h.2⟩
    | cons u bs =>
        -- `u` is the first visit that does not forward, and it stands before `v`
        have hstuck : ¬ u.Forwards settings invoke := by
          rcases hend with ⟨rfl, hrest⟩ | ⟨w, rfl, -, hw⟩
          · obtain rfl : rest = u :: (bs ++ v :: later) := by simpa using hv
            rintro ⟨a, ha⟩
            exact hrest u rfl ha.toStarts
          · obtain ⟨rfl, -⟩ : w = u ∧ _ := by simpa using hv
            exact hw
        have hlast : last.length ≤ 1 := by
          rcases hend with ⟨rfl, -⟩ | ⟨w, rfl, -⟩ <;> simp
        constructor
        · intro hle
          have hlength := hle.length_le
          simp only [List.length_append, List.length_cons] at hlength
          omega
        · rintro ⟨hall, -⟩
          exact absurd (hall u (by simp)) hstuck

/-- The visits whose calls a run makes: the first ones, as long as each starts and has only visits
before it that forward. So they are known without knowing how the run ends. -/
structure Made (settings : PipelineSettings) (invoke : Invoker) (vs made : List Visit) :
    Prop where
  first : made <+: vs
  iff_starts : ∀ earlier v later, vs = earlier ++ v :: later →
    (earlier ++ [v] <+: made ↔
      (∀ u ∈ earlier, u.Forwards settings invoke) ∧ v.Starts settings)

namespace Made

variable {settings : PipelineSettings} {invoke : Invoker}
variable {vs made earlier later : List Visit} {v : Visit}

theorem mem_of_starts (h : Made settings invoke vs made) (hv : vs = earlier ++ v :: later)
    (hp : ∀ u ∈ earlier, u.Forwards settings invoke) (hs : v.Starts settings) : v ∈ made :=
  ((h.iff_starts earlier v later hv).mpr ⟨hp, hs⟩).subset (by simp)

theorem mem_of_forwards {passed rest : List Visit} (h : Made settings invoke vs made)
    (hv : vs = passed ++ rest) (hp : ∀ u ∈ passed, u.Forwards settings invoke) :
    ∀ u ∈ passed, u ∈ made := by
  intro u hu
  obtain ⟨a, ha⟩ := hp u hu
  obtain ⟨earlier, later, rfl⟩ := List.append_of_mem hu
  rw [List.append_assoc] at hv
  exact h.mem_of_starts hv (fun w hw => hp w (List.mem_append_left _ hw)) ha.toStarts

/-- Before a call that is made all visits forward, and its own visit starts. This is all it takes,
so that calls are known from visits. -/
theorem starts_of_eq_append (h : Made settings invoke vs made)
    (hmade : made = earlier ++ v :: later) :
    ∃ rest, vs = earlier ++ v :: rest ∧ (∀ u ∈ earlier, u.Forwards settings invoke) ∧
      v.Starts settings := by
  obtain ⟨tail, hvs⟩ := h.first
  have hsplit : vs = earlier ++ v :: (later ++ tail) := by simp [← hvs, hmade]
  exact ⟨_, hsplit, (h.iff_starts earlier v _ hsplit).mp ⟨later, by simp [hmade]⟩⟩

/-- The calls of a run go to the first stages of its queue. -/
theorem stages_first {startMs : Nat} {queue : List Stage} {payload : ByteArray} {s : Session}
    (h : Made settings invoke (visits invoke startMs queue payload s) made) :
    made.map Visit.stage <+: queue := by
  have hfirst := h.first.map Visit.stage
  rwa [map_stage_visits] at hfirst

end Made

/-- A run makes the calls of the visits that start behind visits that forward. -/
theorem exists_made (settings : PipelineSettings) (invoke : Invoker) (route : String)
    (queue : List Stage) (payload : ByteArray) (s : Session) :
    ∃ made : List Visit, Made settings invoke (visits invoke s.nowMs queue payload s) made ∧
      (execute settings invoke route queue payload s).2.calls =
        (made.map Visit.call).reverse ++ s.calls := by
  obtain ⟨passed, last, rest, hv, hforwards, hend, hcalls⟩ :=
    exists_passed settings invoke route queue payload s
  refine ⟨passed ++ last, ⟨⟨rest, hv.symm⟩, ?_⟩, hcalls⟩
  intro earlier v later hsplit
  rw [List.append_assoc] at hv
  exact prefix_made_iff (hsplit.symm.trans hv) hforwards hend

/-- A run calls the services of the first entries of its queue, in order and once each.
A call carries the latest body before it, and it is made exactly when all stages before
it forward and the run is then neither cancelled nor at its deadline. -/
theorem execute_calls_in_order (settings : PipelineSettings) (invoke : Invoker) (route : String)
    (queue : List Stage) (payload : ByteArray) (s : Session) :
    let vs := visits invoke s.nowMs queue payload s
    vs.map Visit.stage = queue ∧
    ∃ made : List Visit, made <+: vs ∧
      (execute settings invoke route queue payload s).2.calls =
        (made.map Visit.call).reverse ++ s.calls ∧
      ∀ earlier v later, vs = earlier ++ v :: later →
        Met invoke s.nowMs payload s earlier v ∧
        v.call = ⟨v.stage.service,
          latestBody payload (earlier.filterMap (Visit.answer? invoke))⟩ ∧
        (earlier ++ [v] <+: made ↔
          (∀ u ∈ earlier, u.Forwards settings invoke) ∧ v.Starts settings) := by
  intro vs
  obtain ⟨made, hmade, hcalls⟩ := exists_made settings invoke route queue payload s
  refine ⟨map_stage_visits invoke s.nowMs queue payload s, made, hmade.first, hcalls, ?_⟩
  intro earlier v later hsplit
  have hmet := met_of_visits_eq_append hsplit
  exact ⟨hmet, congrArg (Call.mk v.stage.service) hmet.payload,
    hmade.iff_starts earlier v later hsplit⟩

end Pipeline

end StageRelay
