import StageRelay.Proofs.Routing.Findings
import StageRelay.Proofs.Routing.Registry
import StageRelay.Proofs.Routing.Tables
import StageRelay.Proofs.Run.Planned

/-!
# What a clean check promises

A request fails by its configuration in three ways, and `Config.Fault` lists them: its route
names an extension that there is not, a service answers a status that the routing table of
its extension does not know, or a service cannot be called as it is configured. The first way
shows in the configuration alone, and so does the second if the table is empty. The check
reports both. What it cannot see is what services answer.
-/

namespace StageRelay

structure Invoker.EndsIn (invoke : Invoker) (calls : List Call) (service : Service)
    (result : Except CallError Answer) : Prop where
  service : calls.head?.map Call.service = some service
  result : (invoke calls).result = result

/-- The ways in which a request that has made some calls fails by its configuration. Each names the
part of the configuration that is to blame. -/
inductive Config.Fault (c : Config) (invoke : Invoker) (calls : List Call) :
    ConfigError → Prop where
  | unknown {before after : List Route} {r : Route} {s : StageRef}
      (h : c.routes = before ++ r :: after) (hs : s ∈ r.stages)
      (hn : c.extensions.get? s.name = none) :
      Fault c invoke calls (.unknownExtension (r.label before.length) s.name)
  | unrouted {name : String} {e : Extension} {a : Answer}
      (he : c.extensions.get? name = some e) (ha : invoke.EndsIn calls e.service (.ok a))
      (hn : e.routing.resolve a.status = none) :
      Fault c invoke calls (.unroutedStatus name a.status)
  | unusable {name reason : String} {e : Extension} (he : c.extensions.get? name = some e)
      (hr : invoke.EndsIn calls e.service (.error (.invalidRequest reason))) :
      Fault c invoke calls
        (.invalid s!"extension '{name}' has an unusable service: {reason}")

/-- A stage fails by its configuration when its service answers a status without directive or
cannot be called. -/
theorem Visit.Fails.of_config {settings : PipelineSettings} {invoke : Invoker} {v : Visit}
    {err : ConfigError} {s : Session} (h : v.Fails settings invoke (.config err) s) :
    (∃ a, invoke.EndsIn s.calls v.stage.service (.ok a) ∧
        v.stage.routing.resolve a.status = none ∧
        err = .unroutedStatus v.stage.name a.status) ∨
      ∃ reason, invoke.EndsIn s.calls v.stage.service (.error (.invalidRequest reason)) ∧
        err = .invalid s!"extension '{v.stage.name}' has an unusable service: {reason}" := by
  cases h with
  | unusable _ hr => exact .inr ⟨_, ⟨rfl, hr⟩, rfl⟩
  | unrouted _ hr hn => exact .inl ⟨_, ⟨rfl, hr⟩, hn, rfl⟩

namespace Config

variable {c : Config} {evaluate : Evaluator} {invoke : Invoker} {request : Request}
variable {s : Session} {err : ConfigError} {calls : List Call}

/-- There is no other way in which a request fails by its configuration. Each error is traced to the
entry of the configuration that it speaks of. -/
theorem fault_of_handle
    (h : ((Pipeline.ofConfig c).handle evaluate invoke request s).1 = .error (.config err)) :
    c.Fault invoke ((Pipeline.ofConfig c).handle evaluate invoke request s).2.calls err := by
  cases hplan : ((Pipeline.ofConfig c).plan evaluate request).answer with
  | error e =>
      rw [Pipeline.handle_of_plan_eq_error hplan] at h ⊢
      obtain rfl := Except.error.inj h
      rcases Pipeline.cases_of_plan_eq_error hplan with
        ⟨hnone, -⟩ | ⟨before, r, after, ref, hroutes, hs, hn, herr⟩
      · cases hnone
      · obtain rfl := PipelineError.config.inj herr
        exact .unknown hroutes hs (get?_registry_eq_none_iff.mp hn)
  | ok plan =>
      rw [Pipeline.handle_of_plan_eq_ok hplan] at h ⊢
      obtain ⟨passed, v, rest, hv, -, hfail⟩ := Pipeline.exists_fails_of_execute_eq_error h
      have hqueue : v.stage ∈ plan.queue := by
        rw [← Pipeline.map_stage_visits invoke s.nowMs plan.queue request.payload s, hv]
        exact List.mem_map_of_mem (by simp)
      obtain ⟨e, he, hservice, hrouting⟩ := exists_extension_of_mem_queue hplan hqueue
      rcases hfail.of_config with ⟨a, ha, hn, rfl⟩ | ⟨reason, hr, rfl⟩
      · rw [hservice] at ha
        rw [hrouting] at hn
        exact .unrouted he ha hn
      · rw [hservice] at hr
        exact .unusable he hr

/-! ## Faults that the check reports -/

theorem unknownExtension_mem_issues {label name : String}
    (h : c.Fault invoke calls (.unknownExtension label name)) :
    .unknownExtension label name ∈ c.issues := by
  cases h with
  | unknown h hs hn => exact mem_issues_iff.mpr (.unknownExtension h hs hn)

theorem emptyRouting_mem_issues {name : String} {status : Status}
    (h : c.Fault invoke calls (.unroutedStatus name status)) :
    ∃ e, c.extensions.get? name = some e ∧
      (e.routing.isEmpty = true → .emptyRouting name ∈ c.issues) := by
  cases h with
  | unrouted he => exact ⟨_, he, fun ht => mem_issues_iff.mpr (.emptyRouting he ht)⟩

/-- Where the check finds no error, what services answer is at fault: a status without a directive,
or a service that cannot be called. -/
theorem Fault.cases_of_clean (hclean : ∀ issue ∈ c.issues, issue.isError = false)
    (h : c.Fault invoke calls err) :
    (∃ name e a, err = .unroutedStatus name a.status ∧ c.extensions.get? name = some e ∧
        invoke.EndsIn calls e.service (.ok a) ∧ e.routing.isEmpty = false ∧
        e.routing.get? a.status = none ∧ e.routing.wildcard = none) ∨
      ∃ name e reason,
        err = .invalid s!"extension '{name}' has an unusable service: {reason}" ∧
        c.extensions.get? name = some e ∧
        invoke.EndsIn calls e.service (.error (.invalidRequest reason)) := by
  cases h with
  | unknown hroutes hs hn =>
      have herror := hclean _ (mem_issues_iff.mpr (.unknownExtension hroutes hs hn))
      cases herror
  | @unrouted name e a he ha hn =>
      obtain ⟨hexact, hwildcard⟩ := RoutingTable.resolve_eq_none_iff.mp hn
      refine .inl ⟨name, e, a, rfl, he, ha, ?_, hexact, hwildcard⟩
      rw [← Bool.not_eq_true]
      intro hempty
      have herror := hclean _ (mem_issues_iff.mpr (.emptyRouting he hempty))
      cases herror
  | @unusable name reason e he hr => exact .inr ⟨name, e, reason, rfl, he, hr⟩

/-- A clean check rules out that a request fails by what the configuration alone shows. An
unknown extension is reported as an error with the message of the failure, and a status
without directive is preceded by a reported error if the table is empty. So where no error is
reported, a request fails by its configuration only if a service answers a status that its
table lists neither by itself nor with all others, or cannot be called at all. If every table
has a directive for all others, every status has one. -/
theorem handle_config_error_checked (c : Config) (evaluate : Evaluator) (invoke : Invoker)
    (request : Request) (s : Session) :
    let result := (Pipeline.ofConfig c).handle evaluate invoke request s
    (∀ label name, result.1 = .error (.config (.unknownExtension label name)) →
      ∃ issue ∈ c.issues, issue.isError = true ∧
        issue.message = (PipelineError.config (.unknownExtension label name)).message) ∧
    (∀ name status, result.1 = .error (.config (.unroutedStatus name status)) →
      ∃ e, c.extensions.get? name = some e ∧
        (e.routing.isEmpty = true → .emptyRouting name ∈ c.issues)) ∧
    ((∀ issue ∈ c.issues, issue.isError = false) →
      ∀ err, result.1 = .error (.config err) →
        (∃ name e a, err = .unroutedStatus name a.status ∧ c.extensions.get? name = some e ∧
          invoke.EndsIn result.2.calls e.service (.ok a) ∧ e.routing.isEmpty = false ∧
          e.routing.get? a.status = none ∧ e.routing.wildcard = none) ∨
        ∃ name e reason,
          err = .invalid s!"extension '{name}' has an unusable service: {reason}" ∧
          c.extensions.get? name = some e ∧
          invoke.EndsIn result.2.calls e.service (.error (.invalidRequest reason))) ∧
    ((∀ name e, c.extensions.get? name = some e → e.routing.wildcard.isSome = true) →
      ∀ name status, result.1 ≠ .error (.config (.unroutedStatus name status))) := by
  intro result
  refine ⟨?_, ?_, fun hclean err h => (fault_of_handle h).cases_of_clean hclean, ?_⟩
  · intro label name h
    exact ⟨_, unknownExtension_mem_issues (fault_of_handle h), rfl, rfl⟩
  · intro name status h
    exact emptyRouting_mem_issues (fault_of_handle h)
  · intro hwild name status h
    cases fault_of_handle h with
    | unrouted he ha hn =>
        have hsome := hwild _ _ he
        rw [(RoutingTable.resolve_eq_none_iff.mp hn).2] at hsome
        cases hsome

/-- A configuration with one extension, which hands status 200 on and knows no other. -/
def auditConfig : Config :=
  { (default : Config) with
    routes := [⟨none, .always, [⟨"audit", .always⟩]⟩]
    extensions := SortedMap.empty.insert "audit"
      ⟨"", true, ⟨"http://audit", .post, .empty⟩, RoutingTable.empty.on 200 .forward⟩ }

def busyServices : Invoker := fun _ => ⟨.ok ⟨503, .empty⟩, 0, false⟩

/-- The check finds no error, and yet the request fails by its configuration, since the
service answers what its table does not list. -/
theorem handle_config_error_checked_busyServices :
    let result := (Pipeline.ofConfig auditConfig).handle .standard busyServices
      (Request.make "GET" "/") (.start none)
    (∀ issue ∈ auditConfig.issues, issue.isError = false) ∧
      result.1 = .error (.config (.unroutedStatus "audit" 503)) ∧
      ∃ e, auditConfig.extensions.get? "audit" = some e ∧ e.routing.isEmpty = false ∧
        e.routing.get? 503 = none ∧ e.routing.wildcard = none := by
  intro result
  have hclean : ∀ issue ∈ auditConfig.issues, issue.isError = false := by decide
  have hresult : result.1 = .error (.config (.unroutedStatus "audit" 503)) := by rfl
  refine ⟨hclean, hresult, ?_⟩
  obtain ⟨-, -, hchecked, -⟩ := handle_config_error_checked auditConfig .standard busyServices
    (Request.make "GET" "/") (.start none)
  rcases hchecked hclean _ hresult with ⟨name, e, a, herr, he, -, hlisted⟩ | ⟨_, _, _, herr, -⟩
  · obtain ⟨rfl, hstatus⟩ := ConfigError.unroutedStatus.inj herr
    rw [← hstatus] at hlisted
    exact ⟨e, he, hlisted⟩
  · cases herr

end Config

end StageRelay
