import StageRelay.Gateway.Dispatch
import StageRelay.Proofs.Json.Documents
import StageRelay.Proofs.Run.Planned

/-!
# What the pipeline answers

A request that goes through the pipeline is answered in one of three ways, and the type
of the body says in which. A rejected request gets a fixed text and a run that completes
its payload. Everything else is reported in a document, from which the kind of the error
and its wording are read back as they are, whatever names and reasons they contain.
-/

namespace StageRelay

namespace Response

/-- The response has a status and the type of its body. Apart from the name of the request, which is
that of a single answer, it has no other header. -/
structure Has (r : Response) (status : Status) (type : String) : Prop where
  status : r.status = status
  headers : ∀ name, name ≠ "x-request-id" →
    r.headers.get? name = if name = "content-type" then some type else none

structure Rejects (r : Response) : Prop where
  head : r.Has 400 "text/plain; charset=utf-8"
  body : r.body = "Request rejected by extension processing.".toUTF8

structure Delivers (r : Response) (status : Status) (payload : ByteArray) : Prop where
  head : r.Has status "application/octet-stream"
  body : r.body = payload

/-- The response is a document with the kind of an error and its wording. -/
structure Reports (r : Response) (status : Status) (kind message : String) : Prop where
  head : r.Has status "application/json"
  body : (Json.record [("error", .string message), ("kind", .string kind)]).IsHeldBy r.body

end Response

/-- What is reported of an aborted run: the status, the kind of the error and its
wording. -/
inductive PipelineError.IsReportedAs : PipelineError → Status → String → String → Prop where
  | noRouteMatched (method uri : String) :
      IsReportedAs (.noRouteMatched method uri) 404 "no_route_matched"
        s!"no route matched {method} {uri}"
  | config (e : ConfigError) : IsReportedAs (.config e) 500 "config_error" e.message
  | serviceUnavailable (extension uri reason : String) :
      IsReportedAs (.serviceUnavailable extension uri reason) 502 "service_unavailable"
        s!"extension '{extension}' unavailable at {uri}: {reason}"
  | deadlineExceeded (extension : String) (budget : Nat) :
      IsReportedAs (.deadlineExceeded extension budget) 504 "deadline_exceeded"
        s!"pipeline deadline of {budget}ms exceeded before extension '{extension}' completed"
  | cancelled (extension : String) :
      IsReportedAs (.cancelled extension) 503 "cancelled"
        s!"pipeline cancelled before extension '{extension}' completed"

theorem PipelineError.isReportedAs_iff {e : PipelineError} {status : Status}
    {kind message : String} :
    e.IsReportedAs status kind message ↔
      status = e.httpStatus ∧ kind = e.kind ∧ message = e.message := by
  constructor
  · intro h
    cases h <;> exact ⟨rfl, rfl, rfl⟩
  · rintro ⟨rfl, rfl, rfl⟩
    cases e <;> constructor

theorem PipelineError.httpStatus_ne_400 (e : PipelineError) : e.httpStatus ≠ 400 := by
  cases e <;> exact ne_of_beq_false rfl

namespace Response

variable {r : Response} {status status' : Status} {type type' kind kind' message message' : String}
variable {payload payload' : ByteArray}

theorem body_withHeader (r : Response) (name value : String) :
    (r.withHeader name value).body = r.body := rfl

theorem body_json (status : Status) (document : Json) :
    (json status document).body = document.compact.toUTF8 := rfl

/-! ## The three ways of an answer -/

theorem Has.eq (h : r.Has status type) (h' : r.Has status' type') :
    status = status' ∧ type = type' := by
  refine ⟨h.status.symm.trans h'.status, ?_⟩
  have htype := (h.headers "content-type" (by decide)).symm.trans
    (h'.headers "content-type" (by decide))
  simpa using htype

theorem Rejects.not_delivers (h : r.Rejects) : ¬ r.Delivers status payload := fun h' =>
  absurd (h.head.eq h'.head).2 (by decide)

theorem Rejects.not_reports (h : r.Rejects) : ¬ r.Reports status kind message := fun h' =>
  absurd (h.head.eq h'.head).2 (by decide)

theorem Delivers.not_reports (h : r.Delivers status payload) :
    ¬ r.Reports status' kind message := fun h' =>
  absurd (h.head.eq h'.head).2 (by decide)

theorem Delivers.eq (h : r.Delivers status payload) (h' : r.Delivers status' payload') :
    status = status' ∧ payload = payload' :=
  ⟨(h.head.eq h'.head).1, h.body.symm.trans h'.body⟩

theorem Reports.eq (h : r.Reports status kind message) (h' : r.Reports status' kind' message') :
    status = status' ∧ kind = kind' ∧ message = message' := by
  have hbody := h.body.eq h'.body
  simp only [Json.record, List.map_cons, List.map_nil, Json.object.injEq, List.cons.injEq,
    Prod.mk.injEq, Json.string.injEq, true_and, and_true] at hbody
  exact ⟨(h.head.eq h'.head).1, hbody.2, hbody.1⟩

/-! ## The answer to a run -/

section Making

variable (id : String)

theorem has_make (status : Status) (type : String) (body : ByteArray) :
    ((make status type body).withHeader Gateway.requestIdHeader id).Has status type where
  status := rfl
  headers name hname := by
    show ((SortedMap.empty.insert contentType type).insert Gateway.requestIdHeader id).get? name =
      if name = contentType then some type else none
    rw [SortedMap.get?_insert_of_ne _ _ (show name ≠ Gateway.requestIdHeader from hname)]
    by_cases htype : name = contentType
    · rw [htype, SortedMap.get?_insert_self, if_pos rfl]
    · rw [SortedMap.get?_insert_of_ne _ _ htype, if_neg htype, SortedMap.get?_empty]

theorem reports_failure (status : Status) (kind message : String) :
    ((failure status kind message).withHeader Gateway.requestIdHeader id).Reports
      status kind message where
  head := by
    rw [failure, json]
    exact has_make id status _ _
  body := by
    have hrecord : Json.record [("error", .string message), ("kind", .string kind)] =
        .object (Json.textMembers [("error", message), ("kind", kind)]) := rfl
    rw [body_withHeader, failure, body_json, hrecord]
    have hfirst : ∀ m ∈ [("error", message), ("kind", kind)].head?, m.1 ≠ Json.embeddedKey := by
      simp [Json.embeddedKey]
    exact Json.isHeldBy_compact_textMembers hfirst

/-- A response answers the result of a run. Each of the ways in which a run ends is answered in its
own way, so that the response tells them apart. -/
inductive Answers (r : Response) : Except PipelineError Run → Prop where
  | rejected {label name : String} {status : Status} {records : List StageRecord}
      (h : r.Rejects) : Answers r (.ok ⟨label, .rejected name status, records⟩)
  | completed {label : String} {payload : ByteArray} {status : Status}
      {records : List StageRecord} (hstatus : 100 ≤ status ∧ status ≤ 999)
      (h : r.Delivers status payload) :
      Answers r (.ok ⟨label, .completed payload status, records⟩)
  /-- The run completes with a status that cannot be sent. -/
  | unsendable {label : String} {payload : ByteArray} {status : Status}
      {records : List StageRecord} (hstatus : ¬ (100 ≤ status ∧ status ≤ 999))
      (h : r.Reports 502 "invalid_status" s!"extension returned invalid status code {status}") :
      Answers r (.ok ⟨label, .completed payload status, records⟩)
  | aborted {e : PipelineError} (h : r.Reports e.httpStatus e.kind e.message) :
      Answers r (.error e)

theorem isSendable_iff : isSendable status = true ↔ 100 ≤ status ∧ status ≤ 999 := by
  simp [isSendable]

theorem answers_ofResult (x : Except PipelineError Run) :
    ((ofResult x).withHeader Gateway.requestIdHeader id).Answers x := by
  cases x with
  | error e => exact .aborted (reports_failure id _ _ _)
  | ok run =>
      obtain ⟨label, outcome, records⟩ := run
      cases outcome with
      | rejected name status => exact .rejected ⟨has_make id 400 _ _, rfl⟩
      | completed payload status =>
          rw [ofResult, ofOutcome]
          split
          next h => exact .completed (isSendable_iff.mp h) ⟨has_make id status _ _, rfl⟩
          next h => exact .unsendable (mt isSendable_iff.mpr h) (reports_failure id _ _ _)

end Making

namespace Answers

variable {x : Except PipelineError Run} (h : r.Answers x)

include h

theorem rejects_iff : r.Rejects ↔
    ∃ label name status records, x = .ok ⟨label, .rejected name status, records⟩ := by
  constructor
  · intro hrejects
    cases h with
    | rejected _ => exact ⟨_, _, _, _, rfl⟩
    | completed _ h => exact absurd h hrejects.not_delivers
    | unsendable _ h => exact absurd h hrejects.not_reports
    | aborted h => exact absurd h hrejects.not_reports
  · rintro ⟨label, name, status, records, rfl⟩
    cases h with
    | rejected h => exact h

theorem delivers_iff : r.Delivers status payload ↔
    (100 ≤ status ∧ status ≤ 999) ∧
      ∃ label records, x = .ok ⟨label, .completed payload status, records⟩ := by
  constructor
  · intro hdelivers
    cases h with
    | rejected h => exact absurd hdelivers h.not_delivers
    | completed hstatus h =>
        obtain ⟨rfl, rfl⟩ := h.eq hdelivers
        exact ⟨hstatus, _, _, rfl⟩
    | unsendable _ h => exact absurd h hdelivers.not_reports
    | aborted h => exact absurd h hdelivers.not_reports
  · rintro ⟨hstatus, label, records, rfl⟩
    cases h with
    | completed _ h => exact h
    | unsendable hnot _ => exact absurd hstatus hnot

theorem reports_iff : r.Reports status kind message ↔
    (∃ e, x = .error e ∧ e.IsReportedAs status kind message) ∨
      ∃ label payload sent records, x = .ok ⟨label, .completed payload sent, records⟩ ∧
        ¬ (100 ≤ sent ∧ sent ≤ 999) ∧ status = 502 ∧ kind = "invalid_status" ∧
        message = s!"extension returned invalid status code {sent}" := by
  constructor
  · intro hreports
    cases h with
    | rejected h => exact absurd hreports h.not_reports
    | completed _ h => exact absurd hreports h.not_reports
    | unsendable hnot h =>
        exact .inr ⟨_, _, _, _, rfl, hnot, hreports.eq h⟩
    | aborted h =>
        exact .inl ⟨_, rfl, PipelineError.isReportedAs_iff.mpr (hreports.eq h)⟩
  · rintro (⟨e, rfl, he⟩ | ⟨label, payload, sent, records, rfl, hnot, rfl, rfl, rfl⟩)
    · obtain ⟨rfl, rfl, rfl⟩ := PipelineError.isReportedAs_iff.mp he
      cases h with
      | aborted h => exact h
    · cases h with
      | completed hstatus _ => exact absurd hstatus hnot
      | unsendable _ h => exact h

end Answers

end Response

namespace Pipeline

/-- A stage of the queue for a request has it rejected: all stages before it lead on, and
its own routing table terminates. -/
def Terminates (p : Pipeline) (evaluate : Evaluator) (invoke : Invoker) (request : Request)
    (s : Session) : Prop :=
  ∃ plan passed v rest a, (p.plan evaluate request).answer = .ok plan ∧
    visits invoke s.nowMs plan.queue request.payload s = passed ++ v :: rest ∧
    (∀ u ∈ passed, u.Forwards p.settings invoke) ∧ v.Directs p.settings invoke .terminate a

theorem terminates_iff {p : Pipeline} {evaluate : Evaluator} {invoke : Invoker}
    {request : Request} {s : Session} :
    p.Terminates evaluate invoke request s ↔ ∃ label name status records,
      (p.handle evaluate invoke request s).1 = .ok ⟨label, .rejected name status, records⟩ := by
  constructor
  · rintro ⟨plan, passed, v, rest, a, hplan, hv, hp, hdirects⟩
    obtain ⟨answers, hall⟩ := exists_allForward_iff.mpr hp
    rw [handle_of_plan_eq_ok hplan]
    exact ⟨_, _, _, _, execute_rejected_iff.mpr
      ⟨rfl, passed, v, rest, answers, a, hv, hall, hdirects, rfl, rfl, rfl⟩⟩
  · rintro ⟨label, name, status, records, hresult⟩
    cases hplan : (p.plan evaluate request).answer with
    | error e => simp [handle_of_plan_eq_error hplan] at hresult
    | ok plan =>
        rw [handle_of_plan_eq_ok hplan] at hresult
        obtain ⟨-, passed, v, rest, answers, a, hv, hall, hdirects, -, -, -⟩ :=
          execute_rejected_iff.mp hresult
        exact ⟨plan, passed, v, rest, a, hplan, hv, exists_allForward_iff.mp ⟨answers, hall⟩,
          hdirects⟩

end Pipeline

/-- Every request that goes through the pipeline is answered in exactly one of three ways.
The fixed rejection is for those that a stage has rejected, whatever its name, its status
and all bodies are. A payload is handed out when the run completes with a status that can
be sent. A report is about such a run without such a status, or about an aborted run, and
then its kind and its wording can be read back. An aborted run is never answered like one
that a stage has rejected, nor with what a stage has answered. -/
theorem Gateway.answerAt_pipeline_exactly_one (g : Gateway) (invoke : Invoker) (m : Moment)
    (r : Inbound) (s : GatewayState) :
    let response := (g.answerAt invoke m r s .pipeline).1
    let result := (g.pipeline.handle .standard invoke r.toRequest s.session).1
    (response.Rejects ↔ g.pipeline.Terminates .standard invoke r.toRequest s.session) ∧
    (∀ status payload, response.Delivers status payload ↔
      (100 ≤ status ∧ status ≤ 999) ∧
        ∃ label records, result = .ok ⟨label, .completed payload status, records⟩) ∧
    (∀ status kind message, response.Reports status kind message ↔
      (∃ e, result = .error e ∧ e.IsReportedAs status kind message) ∨
        ∃ label payload sent records, result = .ok ⟨label, .completed payload sent, records⟩ ∧
          ¬ (100 ≤ sent ∧ sent ≤ 999) ∧ status = 502 ∧ kind = "invalid_status" ∧
          message = s!"extension returned invalid status code {sent}") ∧
    (response.Rejects ∨ (∃ status payload, response.Delivers status payload) ∨
      ∃ status kind message, response.Reports status kind message) ∧
    (∀ status payload, ¬ (response.Rejects ∧ response.Delivers status payload)) ∧
    (∀ status kind message, ¬ (response.Rejects ∧ response.Reports status kind message)) ∧
    (∀ status payload status' kind message,
      ¬ (response.Delivers status payload ∧ response.Reports status' kind message)) ∧
    ∀ e, result = .error e → response.status ≠ 400 ∧ ¬ response.Rejects ∧
      ∀ status payload, ¬ response.Delivers status payload := by
  intro response result
  have hanswers : response.Answers result := Response.answers_ofResult m.requestId result
  refine ⟨hanswers.rejects_iff.trans Pipeline.terminates_iff.symm,
    fun _ _ => hanswers.delivers_iff, fun _ _ _ => hanswers.reports_iff, ?_,
    fun _ _ h => h.1.not_delivers h.2, fun _ _ _ h => h.1.not_reports h.2,
    fun _ _ _ _ _ h => h.1.not_reports h.2, ?_⟩
  · generalize result = x at hanswers
    cases hanswers with
    | rejected h => exact .inl h
    | completed _ h => exact .inr (.inl ⟨_, _, h⟩)
    | unsendable _ h => exact .inr (.inr ⟨_, _, _, h⟩)
    | aborted h => exact .inr (.inr ⟨_, _, _, h⟩)
  · intro e he
    rw [he] at hanswers
    cases hanswers with
    | aborted h =>
        refine ⟨?_, fun hrejects => hrejects.not_reports h,
          fun _ _ hdelivers => hdelivers.not_reports h⟩
        rw [h.head.status]
        exact e.httpStatus_ne_400

end StageRelay
