import StageRelay.Proofs.Routing.Selection

/-!
# What routing sees of a request

Conditions look at the method in any case of letters, at the path, at the headers, and at
whether there is a payload and whether there are files. Two requests that agree in these are
seen alike: a condition has one value for both, and so every table of routes leads both to the
same plan. The query behind the path, the bytes of a payload and the contents of files are no
part of it.
-/

namespace StageRelay

namespace Text

/-- A text without a character stands before what is joined to it with that character. -/
theorem before_append_of_notMem {c : Char} {s rest : String} (h : c ∉ s.toList)
    (hrest : rest.toList.head? = some c) : before c (s ++ rest) = s := by
  have hkept : ∀ x ∈ s.toList, (x != c) = true := by
    intro x hx
    exact bne_iff_ne.mpr fun hxc => h (hxc ▸ hx)
  obtain ⟨tail, hrest⟩ := List.head?_eq_some_iff.mp hrest
  have htake : (s.toList ++ rest.toList).takeWhile (· != c) = s.toList := by
    rw [List.takeWhile_append_of_pos hkept, hrest]
    simp
  rw [before, String.toList_append, htake, String.ofList_toList]

theorem notMem_before (c : Char) (s : String) : c ∉ (before c s).toList := by
  intro hc
  rw [before, String.toList_ofList] at hc
  have hne := List.all_takeWhile (p := (· != c)) (l := s.toList)
  rw [List.all_eq_true] at hne
  simpa using hne c hc

end Text

namespace Request

/-- Two requests agree in all that conditions look at. The method counts without its case of
letters, the payload and the files only in so far as there are any. -/
structure SeenAlike (r r' : Request) : Prop where
  method : Ascii.sameFold r.method r'.method = true
  path : r.path = r'.path
  headers : r.headers = r'.headers
  payload : r.hasPayload = r'.hasPayload
  files : r.hasFiles = r'.hasFiles

def withHidden (r : Request) (query : String) (payload : ByteArray) (files : List Upload) :
    Request :=
  { r with uri := r.path ++ ("?" ++ query), payload := payload, files := files }

variable {r r' : Request}

theorem path_withHidden (r : Request) (query : String) (payload : ByteArray)
    (files : List Upload) : (r.withHidden query payload files).path = r.path := by
  have hpath : '?' ∉ r.path.toList := Text.notMem_before '?' r.uri
  have hquery : ("?" ++ query).toList.head? = some '?' := by simp
  exact Text.before_append_of_notMem hpath hquery

/-- The query, the bytes of a payload and the contents of files are not seen. -/
theorem seenAlike_withHidden {query : String} {payload : ByteArray} {files : List Upload}
    (hp : payload.isEmpty = r.payload.isEmpty) (hf : files.isEmpty = r.files.isEmpty) :
    r.SeenAlike (r.withHidden query payload files) where
  method := Ascii.sameFold_iff.mpr rfl
  path := (path_withHidden r query payload files).symm
  headers := rfl
  payload := congrArg (! ·) hp.symm
  files := congrArg (! ·) hf.symm

/-- A condition has one value for requests that are seen alike. The induction goes through the
conditions inside, of which the lists are walked in step. -/
theorem SeenAlike.holds_eq (h : r.SeenAlike r') (c : Condition) : c.holds r = c.holds r' := by
  have hfold : Ascii.sameFold r.method = Ascii.sameFold r'.method := by
    funext name
    rw [Ascii.sameFold, Ascii.sameFold, Ascii.sameFold_iff.mp h.method]
  have hheader : r.header = r'.header := by
    funext name
    rw [header, header, h.headers]
  induction c using Condition.induction with
  | always => rfl
  | never => rfl
  | method names => rw [Condition.holds, Condition.holds, hfold]
  | pathStart head => rw [Condition.holds, Condition.holds, h.path]
  | pathEquals path => rw [Condition.holds, Condition.holds, h.path]
  | headerPresent name => rw [Condition.holds, Condition.holds, hheader]
  | headerEquals name value => rw [Condition.holds, Condition.holds, hheader]
  | hasPayload => exact h.payload
  | hasFiles => exact h.files
  | all cs ih =>
      have hvalues : cs.map (Condition.holds r) = cs.map (Condition.holds r') :=
        List.map_congr_left ih
      rw [Condition.holds_all, Condition.holds_all]
      have hall := congrArg (List.all · id) hvalues
      rwa [List.all_map, List.all_map] at hall
  | any cs ih =>
      have hvalues : cs.map (Condition.holds r) = cs.map (Condition.holds r') :=
        List.map_congr_left ih
      rw [Condition.holds_any, Condition.holds_any]
      have hany := congrArg (List.any · id) hvalues
      rwa [List.any_map, List.any_map] at hany
  | not c ih => rw [Condition.holds_not, Condition.holds_not, ih]

end Request

/-! ## Plans of requests that an evaluator cannot tell apart -/

section Indistinct

variable {evaluate : Evaluator} {request request' : Request}
variable (h : ∀ c, evaluate c request = evaluate c request')

include h

theorem Route.IsFirst.congr {before : List Route} {r : Route}
    (hfirst : r.IsFirst evaluate request before) : r.IsFirst evaluate request' before where
  rejected q hq := (h q.condition).symm.trans (hfirst.rejected q hq)
  accepted := (h r.condition).symm.trans hfirst.accepted

theorem Stage.queue?_congr (registry : Registry) (stages : List StageRef) :
    queue? evaluate registry request stages = queue? evaluate registry request' stages := by
  have hstage : StageRef.stage? evaluate registry request =
      StageRef.stage? evaluate registry request' := by
    funext s
    rw [StageRef.stage?, StageRef.stage?, h s.condition]
  rw [queue?, queue?, hstage]

/-- Either no route takes the requests, or one route takes both with one queue. -/
theorem Pipeline.plan_congr (p : Pipeline) :
    ((p.plan evaluate request).answer = .error (.noRouteMatched request.method request.uri) ∧
        (p.plan evaluate request').answer =
          .error (.noRouteMatched request'.method request'.uri)) ∨
      ∃ (r : Route) (index : Nat) (queue : Except String (List Stage)),
        (p.plan evaluate request).answer = r.planAt index queue ∧
          (p.plan evaluate request').answer = r.planAt index queue := by
  rcases Route.first_or_none evaluate request p.routes with
    hnone | ⟨before, r, after, hroutes, hfirst⟩
  · have hnone' : ∀ q ∈ p.routes, evaluate q.condition request' = false := fun q hq =>
      (h q.condition).symm.trans (hnone q hq)
    exact .inl ⟨answer_plan_of_none hnone, answer_plan_of_none hnone'⟩
  · refine .inr ⟨r, before.length, _, answer_plan_of_first hroutes hfirst, ?_⟩
    rw [Stage.queue?_congr h]
    exact answer_plan_of_first hroutes (hfirst.congr h)

end Indistinct

namespace Pipeline

/-- Routing depends on what it sees of a request and on nothing else. Requests that are seen
alike satisfy the same conditions, and every table of routes with every registry gives both
the same plan, the same unknown extension, or no route. A request is seen alike with another
query, other bytes of a payload and other files. -/
theorem plan_of_seenAlike (r : Request) :
    (∀ r', r.SeenAlike r' →
      (∀ c, Evaluator.standard c r = Evaluator.standard c r') ∧
      ∀ p : Pipeline,
        let plan := fun request => (p.plan .standard request).answer
        (∃ found, plan r = .ok found ∧ plan r' = .ok found) ∨
        (∃ label name, plan r = .error (.config (.unknownExtension label name)) ∧
          plan r' = .error (.config (.unknownExtension label name))) ∨
        (plan r = .error (.noRouteMatched r.method r.uri) ∧
          plan r' = .error (.noRouteMatched r'.method r'.uri))) ∧
    ∀ query payload files, payload.isEmpty = r.payload.isEmpty →
      files.isEmpty = r.files.isEmpty → r.SeenAlike (r.withHidden query payload files) := by
  refine ⟨?_, fun _ _ _ hp hf => Request.seenAlike_withHidden hp hf⟩
  intro r' h
  have hsame : ∀ c, Evaluator.standard c r = Evaluator.standard c r' := h.holds_eq
  refine ⟨hsame, ?_⟩
  intro p plan
  rcases plan_congr hsame p with hnone | ⟨route, index, queue, hr, hr'⟩
  · exact .inr (.inr hnone)
  · cases queue with
    | ok queue => exact .inl ⟨_, hr, hr'⟩
    | error name => exact .inr (.inl ⟨_, name, hr, hr'⟩)

def storeExtension : Extension :=
  ⟨"store", true, ⟨"http://store", .post, .empty⟩, RoutingTable.empty.otherwise .forward⟩

def ordersPipeline : Pipeline where
  routes := [⟨some "orders",
    .all [.method ["Post"], .pathEquals "/orders", .hasPayload, .not .hasFiles],
    [⟨"store", .headerPresent "X-Tenant"⟩]⟩]
  registry := .ofEntries [("store", storeExtension)]
  settings := default

def ordersRequest (method query : String) (payload : ByteArray) : Request :=
  ⟨method, "/orders?" ++ query, .ofList [("x-tenant", "north")], payload, []⟩

/-- Two requests that differ in the case of the method, in the query and in the payload are
planned alike. -/
theorem plan_of_seenAlike_orders :
    let r := ordersRequest "post" "page=1" ⟨#[1]⟩
    let r' := ordersRequest "POST" "page=2&all" ⟨#[2, 3]⟩
    let plan := fun request => (ordersPipeline.plan .standard request).answer
    r.SeenAlike r' ∧ plan r = .ok ⟨"orders", 0, [storeExtension.stage]⟩ ∧
      plan r' = .ok ⟨"orders", 0, [storeExtension.stage]⟩ := by
  intro r r' plan
  have halike : r.SeenAlike r' := ⟨by decide, by decide, rfl, rfl, rfl⟩
  have hplan : (ordersPipeline.plan .standard (ordersRequest "post" "page=1" ⟨#[1]⟩)).answer =
      .ok ⟨"orders", 0, [storeExtension.stage]⟩ := rfl
  refine ⟨halike, hplan, ?_⟩
  rcases ((plan_of_seenAlike r).1 r' halike).2 ordersPipeline with
    ⟨found, hr, hr'⟩ | ⟨label, name, hr, -⟩ | ⟨hr, -⟩
  · obtain rfl := Except.ok.inj (hr.symm.trans hplan)
    exact hr'
  · cases hr.symm.trans hplan
  · cases hr.symm.trans hplan

end Pipeline

end StageRelay
