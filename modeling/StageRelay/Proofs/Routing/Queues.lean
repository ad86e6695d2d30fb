import StageRelay.Proofs.Routing.Selection

/-!
# What a queue is made of, and what is asked for it

The references of a route are gone through in their order. The first that names no registered
extension ends this with an error, whatever its own condition is and whatever comes after it. The
conditions that are asked about are those of the references before it whose extensions are active,
each once. So an evaluator that answers these questions in the same way gives the same queue.

None of this needs an evaluator that always answers alike. `Stage.queueRemembering` consults an
evaluator with a memory, and comes to what the same questions, asked one after the other, are
answered.
-/

namespace StageRelay

namespace StageRef

def isKnown (registry : Registry) (s : StageRef) : Bool := (registry.get? s.name).isSome

def isActive (registry : Registry) (s : StageRef) : Bool :=
  (registry.get? s.name).any (·.active)

theorem isNone_get? (registry : Registry) (s : StageRef) :
    (registry.get? s.name).isNone = !s.isKnown registry := (Option.not_isSome _).symm

end StageRef

namespace Stage

variable {evaluate evaluate' : Evaluator} {registry : Registry} {label : String}
variable {request : Request} {stages : List StageRef}

/-! ## The references that count -/

section Consulted

variable {s : StageRef} {e : Extension}

/-- The references whose conditions are asked about: those before the first unknown one whose
extensions are active. Which these are does not depend on any answer. -/
def consulted (registry : Registry) (stages : List StageRef) : List StageRef :=
  (stages.takeWhile (·.isKnown registry)).filter (·.isActive registry)

theorem consulted_cons_of_unknown (stages : List StageRef) (hs : registry.get? s.name = none) :
    consulted registry (s :: stages) = [] := by
  have hknown : s.isKnown registry = false := by rw [StageRef.isKnown, hs]; rfl
  rw [consulted, List.takeWhile_cons, hknown]
  rfl

theorem consulted_cons (stages : List StageRef) (hs : registry.get? s.name = some e) :
    consulted registry (s :: stages) =
      if e.active then s :: consulted registry stages else consulted registry stages := by
  have hknown : s.isKnown registry = true := by rw [StageRef.isKnown, hs]; rfl
  have hactive : s.isActive registry = e.active := by rw [StageRef.isActive, hs]; rfl
  rw [consulted, List.takeWhile_cons, hknown, if_pos rfl, List.filter_cons, hactive]
  rfl

end Consulted

/-! ## What is asked -/

theorem asked_queue_cons_of_active {s : StageRef} {e : Extension} (stages : List StageRef)
    (hs : registry.get? s.name = some e) (hactive : e.active = true) :
    (queue evaluate registry label request (s :: stages)).asked =
      s.condition :: (queue evaluate registry label request stages).asked := by
  cases hcondition : evaluate s.condition request with
  | false => rw [queue_cons_of_rejected stages hs hactive hcondition, Consulted.asked_after]
  | true =>
      rw [queue_cons_of_accepted stages hs hactive hcondition, Consulted.asked_after,
        Consulted.asked_map]

/-- Asked about are the active references before the first unknown one. -/
theorem asked_queue (evaluate : Evaluator) (registry : Registry) (label : String)
    (request : Request) (stages : List StageRef) :
    (queue evaluate registry label request stages).asked =
      (consulted registry stages).map (·.condition) := by
  induction stages with
  | nil => rfl
  | cons s stages ih =>
      cases hs : registry.get? s.name with
      | none =>
          rw [queue_cons_of_unknown stages hs, consulted_cons_of_unknown stages hs]
          rfl
      | some e =>
          rw [consulted_cons stages hs]
          cases hactive : e.active with
          | false =>
              rw [queue_cons_of_inactive stages hs hactive, ih]
              rfl
          | true =>
              rw [asked_queue_cons_of_active stages hs hactive, ih]
              rfl

/-- Only the answers to the questions that are asked matter. Neither conditions behind an unknown
reference nor those of extensions that are switched off have any influence. -/
theorem queue_congr (h : ∀ c ∈ (queue evaluate registry label request stages).asked,
      evaluate' c request = evaluate c request) :
    queue evaluate' registry label request stages =
      queue evaluate registry label request stages := by
  induction stages with
  | nil => rfl
  | cons s stages ih =>
      cases hs : registry.get? s.name with
      | none => rw [queue_cons_of_unknown stages hs, queue_cons_of_unknown stages hs]
      | some e =>
          cases hactive : e.active with
          | false =>
              rw [queue_cons_of_inactive stages hs hactive] at h
              rw [queue_cons_of_inactive stages hs hactive,
                queue_cons_of_inactive stages hs hactive, ih h]
          | true =>
              rw [asked_queue_cons_of_active stages hs hactive, List.forall_mem_cons] at h
              obtain ⟨hsame, hrest⟩ := h
              cases hcondition : evaluate s.condition request with
              | false =>
                  rw [queue_cons_of_rejected stages hs hactive hcondition,
                    queue_cons_of_rejected stages hs hactive (hsame.trans hcondition), ih hrest]
              | true =>
                  rw [queue_cons_of_accepted stages hs hactive hcondition,
                    queue_cons_of_accepted stages hs hactive (hsame.trans hcondition), ih hrest]

/-! ## What is answered -/

theorem answer_queue_of_known (h : ∀ s ∈ stages, s.isKnown registry = true) :
    (queue evaluate registry label request stages).answer =
      .ok (stages.filterMap (StageRef.stage? evaluate registry request)) := by
  have hfind : stages.find? (fun s => (registry.get? s.name).isNone) = none :=
    List.find?_eq_none.mpr fun s hs => by simp [StageRef.isNone_get?, h s hs]
  rw [answer_queue, queue?, hfind]
  rfl

theorem answer_queue_of_first_unknown {before : List StageRef} {s : StageRef}
    (hbefore : ∀ q ∈ before, q.isKnown registry = true) (hs : s.isKnown registry = false)
    (after : List StageRef) :
    (queue evaluate registry label request (before ++ s :: after)).answer =
      .error (.unknownExtension label s.name) := by
  have hfind : (before ++ s :: after).find? (fun s => (registry.get? s.name).isNone) = some s := by
    refine List.find?_eq_some_iff_append.mpr ⟨?_, before, after, rfl, fun q hq => ?_⟩
    · rw [StageRef.isNone_get?, hs]
      rfl
    · rw [StageRef.isNone_get?, hbefore q hq]
      rfl
  rw [answer_queue, queue?, hfind]
  rfl

/-- All references are known, or one of them is the first that is not. -/
theorem known_or_first_unknown (registry : Registry) (stages : List StageRef) :
    (∀ s ∈ stages, s.isKnown registry = true) ∨
      ∃ before s after, stages = before ++ s :: after ∧
        (∀ q ∈ before, q.isKnown registry = true) ∧ s.isKnown registry = false := by
  obtain hall | ⟨before, s, after, rfl, hbefore, hs⟩ :=
    forall_or_first (fun s => s.isKnown registry = true) stages
  · exact .inl hall
  · exact .inr ⟨before, s, after, rfl, hbefore, eq_false_of_ne_true hs⟩

/-- The error names the first reference that is unknown. -/
theorem answer_queue_eq_error_iff {err : ConfigError} :
    (queue evaluate registry label request stages).answer = .error err ↔
      ∃ before s after, stages = before ++ s :: after ∧
        (∀ q ∈ before, q.isKnown registry = true) ∧ s.isKnown registry = false ∧
        err = .unknownExtension label s.name := by
  constructor
  · intro h
    obtain hall | ⟨before, s, after, rfl, hbefore, hs⟩ := known_or_first_unknown registry stages
    · cases (answer_queue_of_known hall).symm.trans h
    · have herror := (answer_queue_of_first_unknown hbefore hs after).symm.trans h
      exact ⟨before, s, after, rfl, hbefore, hs, (Except.error.inj herror).symm⟩
  · rintro ⟨before, s, after, rfl, hbefore, hs, rfl⟩
    exact answer_queue_of_first_unknown hbefore hs after

theorem answer_queue_eq_ok_iff {queued : List Stage} :
    (queue evaluate registry label request stages).answer = .ok queued ↔
      (∀ s ∈ stages, s.isKnown registry = true) ∧
        queued = stages.filterMap (StageRef.stage? evaluate registry request) := by
  constructor
  · intro h
    obtain hall | ⟨before, s, after, rfl, hbefore, hs⟩ := known_or_first_unknown registry stages
    · exact ⟨hall, (Except.ok.inj ((answer_queue_of_known hall).symm.trans h)).symm⟩
    · cases (answer_queue_of_first_unknown hbefore hs after).symm.trans h
  · rintro ⟨hall, rfl⟩
    exact answer_queue_of_known hall

/-! ## Evaluators with a memory -/

section Remembering

variable {σ : Type} {ask : RememberingEvaluator σ}

/-- The queue of some references when one after the other is asked about, and the memory that is
left. An answer may depend on all questions before it. -/
def queueRemembering (ask : RememberingEvaluator σ) (registry : Registry) (label : String)
    (request : Request) : List StageRef → σ → Except ConfigError (List Stage) × σ
  | [], s => (.ok [], s)
  | r :: rs, s =>
    match registry.get? r.name with
    | none => (.error (.unknownExtension label r.name), s)
    | some e =>
      if !e.active then queueRemembering ask registry label request rs s
      else
        let (answer, t) := ask r.condition request s
        let (queued, u) := queueRemembering ask registry label request rs t
        (if answer then queued.map (e.stage :: ·) else queued, u)

/-- The answers to some questions that are asked one after the other, and the memory that is
left. -/
def askAll (ask : RememberingEvaluator σ) (request : Request) :
    List Condition → σ → List Bool × σ
  | [], s => ([], s)
  | c :: cs, s =>
    let (answer, t) := ask c request s
    (askAll ask request cs t).map (answer :: ·) id

/-- The stages of the references whose conditions are answered with yes, in the order of the
references. -/
def accepted (registry : Registry) (references : List StageRef) (answers : List Bool) :
    List Stage :=
  ((references.zip answers).filter (·.2)).filterMap fun p =>
    (registry.get? p.1.name).map Extension.stage

/-- The queue that answers to the questions come to, or the error about the first unknown reference,
which no answer can prevent. -/
def queueOf (registry : Registry) (label : String) (stages : List StageRef)
    (answers : List Bool) : Except ConfigError (List Stage) :=
  match stages.find? fun s => (registry.get? s.name).isNone with
  | some s => .error (.unknownExtension label s.name)
  | none => .ok (accepted registry (consulted registry stages) answers)

section Step

variable {r : StageRef} {e : Extension}

theorem queueOf_cons_of_unknown (stages : List StageRef) (hr : registry.get? r.name = none)
    (answers : List Bool) :
    queueOf registry label (r :: stages) answers = .error (.unknownExtension label r.name) := by
  rw [queueOf, List.find?_cons, hr]
  rfl

theorem queueOf_cons_of_inactive (stages : List StageRef) (hr : registry.get? r.name = some e)
    (hactive : e.active = false) (answers : List Bool) :
    queueOf registry label (r :: stages) answers = queueOf registry label stages answers := by
  rw [queueOf, queueOf, List.find?_cons, hr, consulted_cons stages hr, hactive]
  rfl

theorem queueOf_cons_of_active (stages : List StageRef) (hr : registry.get? r.name = some e)
    (hactive : e.active = true) (answer : Bool) (answers : List Bool) :
    queueOf registry label (r :: stages) (answer :: answers) =
      if answer then (queueOf registry label stages answers).map (e.stage :: ·)
      else queueOf registry label stages answers := by
  rw [queueOf, queueOf, List.find?_cons, hr, consulted_cons stages hr, hactive, if_pos rfl]
  show (match stages.find? fun s => (registry.get? s.name).isNone with
    | some s => Except.error (ConfigError.unknownExtension label s.name)
    | none => .ok (accepted registry (r :: consulted registry stages) (answer :: answers))) = _
  cases stages.find? fun s => (registry.get? s.name).isNone with
  | some s => cases answer <;> rfl
  | none =>
      cases answer with
      | false => rfl
      | true =>
          show Except.ok (List.filterMap _ ((r, true) :: _)) = Except.ok (e.stage :: _)
          rw [List.filterMap_cons]
          simp only [hr, Option.map_some]
          rfl

end Step

/-- With a memory, the questions are the same, each is asked once and in order, and nothing else
touches the memory. -/
theorem queueRemembering_eq (ask : RememberingEvaluator σ) (registry : Registry) (label : String)
    (request : Request) (stages : List StageRef) (s : σ) :
    queueRemembering ask registry label request stages s =
      (askAll ask request ((consulted registry stages).map (·.condition)) s).map
        (queueOf registry label stages) id := by
  induction stages generalizing s with
  | nil => rfl
  | cons r stages ih =>
      cases hr : registry.get? r.name with
      | none =>
          simp only [queueRemembering, consulted_cons_of_unknown stages hr, hr, List.map_nil,
            askAll, Prod.map, queueOf_cons_of_unknown stages hr, id]
      | some e =>
          rw [consulted_cons stages hr]
          cases hactive : e.active with
          | false =>
              simp only [queueRemembering, hr, hactive, Bool.not_false, if_true, ih s]
              exact congrArg (Prod.map · id _)
                (funext (queueOf_cons_of_inactive stages hr hactive)).symm
          | true =>
              rcases hasked : ask r.condition request s with ⟨answer, t⟩
              simp only [queueRemembering, hr, hactive, Bool.not_true, Bool.false_eq_true, if_false,
                if_true, List.map_cons, askAll, hasked, ih t, Prod.map, id,
                queueOf_cons_of_active stages hr hactive]

theorem askAll_recording (evaluate : Evaluator) (request : Request) (cs asked : List Condition) :
    askAll evaluate.recording request cs asked = (cs.map (evaluate · request), asked ++ cs) := by
  induction cs generalizing asked with
  | nil => rw [askAll, List.map_nil, List.append_nil]
  | cons c cs ih =>
      show (askAll evaluate.recording request cs (asked ++ [c])).map _ id = _
      rw [ih, List.append_assoc]
      rfl

theorem queueOf_map (evaluate : Evaluator) (registry : Registry) (label : String)
    (request : Request) (stages : List StageRef) :
    queueOf registry label stages
        ((consulted registry stages).map fun s => evaluate s.condition request) =
      (queue evaluate registry label request stages).answer := by
  induction stages with
  | nil => rfl
  | cons s stages ih =>
      cases hs : registry.get? s.name with
      | none =>
          rw [queueOf_cons_of_unknown stages hs, queue_cons_of_unknown stages hs]
          rfl
      | some e =>
          rw [consulted_cons stages hs]
          cases hactive : e.active with
          | false =>
              rw [queueOf_cons_of_inactive stages hs hactive,
                queue_cons_of_inactive stages hs hactive]
              exact ih
          | true =>
              rw [if_pos rfl, List.map_cons, queueOf_cons_of_active stages hs hactive, ih]
              cases hcondition : evaluate s.condition request with
              | false =>
                  rw [queue_cons_of_rejected stages hs hactive hcondition, Consulted.answer_after]
                  rfl
              | true =>
                  rw [queue_cons_of_accepted stages hs hactive hcondition, Consulted.answer_after]
                  rfl

/-- Without a memory, what is left in the end are the questions. So the account that is kept beside
the answers is a true one. -/
theorem queueRemembering_recording (evaluate : Evaluator) (registry : Registry) (label : String)
    (request : Request) (stages : List StageRef) :
    queueRemembering evaluate.recording registry label request stages [] =
      ((queue evaluate registry label request stages).answer,
        (queue evaluate registry label request stages).asked) := by
  rw [queueRemembering_eq, askAll_recording, asked_queue, ← queueOf_map, List.map_map]
  rfl

end Remembering

/-- A queue fails exactly when a reference is unknown, whatever the conditions are and whichever
extensions are active, and then the error names the first such reference. Else it has, in their
order, the stages of the references whose extensions are active and whose conditions hold. Either
way the conditions that are asked about are those of the active references before the first unknown
one, and an evaluator that decides these in the same way gives the same queue. An evaluator that
remembers is asked the same questions, each once and in order, and nothing else touches its
memory. -/
theorem queue_asks_active_before_unknown (evaluate : Evaluator) (registry : Registry)
    (label : String) (request : Request) (stages : List StageRef) :
    let result := queue evaluate registry label request stages
    ((∃ err, result.answer = .error err) ↔ ∃ s ∈ stages, s.isKnown registry = false) ∧
    (∀ err, result.answer = .error err ↔
      ∃ before s after, stages = before ++ s :: after ∧
        (∀ q ∈ before, q.isKnown registry = true) ∧ s.isKnown registry = false ∧
        err = .unknownExtension label s.name) ∧
    (∀ queued, result.answer = .ok queued ↔
      (∀ s ∈ stages, s.isKnown registry = true) ∧
        queued = stages.filterMap (StageRef.stage? evaluate registry request)) ∧
    result.asked =
      ((stages.takeWhile (·.isKnown registry)).filter (·.isActive registry)).map (·.condition) ∧
    (∀ evaluate' : Evaluator, (∀ c ∈ result.asked, evaluate' c request = evaluate c request) →
      queue evaluate' registry label request stages = result) ∧
    queueRemembering evaluate.recording registry label request stages [] =
      (result.answer, result.asked) ∧
    ∀ (σ : Type) (ask : RememberingEvaluator σ) (s : σ),
      queueRemembering ask registry label request stages s =
        (askAll ask request result.asked s).map (queueOf registry label stages) id := by
  intro result
  have hasked : result.asked = (consulted registry stages).map (·.condition) :=
    asked_queue evaluate registry label request stages
  refine ⟨⟨?_, ?_⟩, fun _ => answer_queue_eq_error_iff, fun _ => answer_queue_eq_ok_iff, hasked,
    fun _ => queue_congr, queueRemembering_recording evaluate registry label request stages,
    fun σ ask s => ?_⟩
  · rintro ⟨err, herr⟩
    obtain ⟨before, s, after, rfl, -, hs, -⟩ := answer_queue_eq_error_iff.mp herr
    exact ⟨s, List.mem_append_right _ List.mem_cons_self, hs⟩
  · rintro ⟨s, hmem, hs⟩
    cases hanswer : result.answer with
    | error err => exact ⟨err, rfl⟩
    | ok queued => exact absurd hs (by simp [(answer_queue_eq_ok_iff.mp hanswer).1 s hmem])
  · rw [hasked]
    exact queueRemembering_eq ask registry label request stages s

end Stage

end StageRelay
