import StageRelay.Gateway.Dispatch

/-!
# What answers a request

For every method and every path there is exactly one endpoint: that of the path, if the
configuration offers it and the method is one of its own, and else the pipeline. So the gateway
refuses no request for its path or its method.

The endpoint decides about the answer of every request whose body is within the limit, as long as
the request does not say otherwise of its body. A body beyond the limit is refused wherever it would
be read, and nothing happens besides.
-/

namespace StageRelay

/-- Whether an endpoint is the one for a method and a path, by the configuration. -/
def Config.Serves (c : Config) (temporary method path : String) : Endpoint → Prop
  | .health => path = Gateway.healthPath ∧ (method = "GET" ∨ method = "HEAD")
  | .validation rules =>
    c.services.validation.enabled = true ∧ rules = c.services.validation.rules ∧
      path = Gateway.validationPath ∧ method = "POST"
  | .store file =>
    c.services.store.enabled = true ∧ file = c.services.store.resolvedPath temporary ∧
      path = Gateway.storePath ∧ method = "POST"
  | .pipeline =>
    ¬ (path = Gateway.healthPath ∧ (method = "GET" ∨ method = "HEAD")) ∧
      ¬ (c.services.validation.enabled = true ∧ path = Gateway.validationPath ∧ method = "POST") ∧
      ¬ (c.services.store.enabled = true ∧ path = Gateway.storePath ∧ method = "POST")

/-- What the request says of the length of its body, if anything: it is within the limit, and the
body is no longer. -/
def Inbound.DeclaresWithin (r : Inbound) (limit : Nat) : Prop :=
  ∀ n, r.declaredLength? = some n → r.body.size ≤ n ∧ n ≤ limit

namespace Response

@[simp] theorem status_withHeader (r : Response) (name value : String) :
    (r.withHeader name value).status = r.status := rfl

@[simp] theorem status_withHeaders (r : Response) (headers : List (String × String)) :
    (r.withHeaders headers).status = r.status := by
  induction headers generalizing r with
  | nil => rfl
  | cons h headers ih => exact ih (r.withHeader h.1 h.2)

theorem status_ofAnswer {a : Answer} (h : isSendable a.status = true) :
    (ofAnswer a).status = a.status :=
  if_pos h

end Response

theorem Validation.status_handle (explain : ByteArray → String) (rules : SortedMap String Rule)
    (payload : ByteArray) :
    (handle explain rules payload).status = passStatus ∨
      (handle explain rules payload).status = failStatus := by
  rw [handle]
  split
  next => exact .inl rfl
  next => exact .inr rfl

theorem Store.status_handle {σ ε : Type} (append : σ → String → Except ε σ) (stamp : String)
    (payload : ByteArray) (s : σ) :
    (handle append stamp payload s).1.status = storedStatus ∨
      (handle append stamp payload s).1.status = failedStatus := by
  rw [handle]
  split
  next => exact .inl rfl
  next => exact .inr rfl

namespace Gateway

variable {temporary : String} {c : Config} {g : Gateway}

@[simp] theorem status_trimFor (method : String) (allow : Option String) (r : Response) :
    (trimFor method allow r).status = r.status := by
  rw [trimFor]
  split
  next => rfl
  next => split <;> exact Response.status_withHeaders _ _

/-- The response to a request, made of the answer to it: with the headers for its origin and those
of its path. Only the head is kept if no more is asked for, or if a tunnel is opened. -/
def finish (g : Gateway) (r : Inbound) (response : Response) : Response :=
  trimFor r.method (g.endpoint r.method r.target.routePath).2
    (response.withHeaders (g.cors.headers (r.first? "origin")))

@[simp] theorem status_finish (g : Gateway) (r : Inbound) (response : Response) :
    (g.finish r response).status = response.status := by
  simp [finish]

/-! ## The endpoint -/

theorem ofConfig?_eq_some_iff : ofConfig? temporary c = some g ↔
    ∃ cors, Cors.ofOrigins? c.gateway.corsOrigins = some cors ∧
      ⟨.ofConfig c, cors, c.gateway.maxBodyBytes,
        if c.services.validation.enabled then some c.services.validation.rules else none,
        if c.services.store.enabled then some (c.services.store.resolvedPath temporary)
        else none⟩ = g := by
  rw [ofConfig?]
  exact Option.bind_eq_some_iff.trans (exists_congr fun _ => and_congr_right fun _ => by simp)

theorem mem_mounts_iff (hg : ofConfig? temporary c = some g) {m : Mount} :
    m ∈ g.mounts ↔ m = ⟨healthPath, ["GET", "HEAD"], .health⟩ ∨
      c.services.validation.enabled = true ∧
        m = ⟨validationPath, ["POST"], .validation c.services.validation.rules⟩ ∨
      c.services.store.enabled = true ∧
        m = ⟨storePath, ["POST"], .store (c.services.store.resolvedPath temporary)⟩ := by
  obtain ⟨cors, -, rfl⟩ := ofConfig?_eq_some_iff.mp hg
  cases hvalidation : c.services.validation.enabled <;>
    cases hstore : c.services.store.enabled <;> simp [mounts]

/-- The paths of the gateway's own differ. -/
theorem paths_ne : healthPath ≠ validationPath ∧ healthPath ≠ storePath ∧
    validationPath ≠ storePath := by
  decide

theorem serves_endpoint (hg : ofConfig? temporary c = some g) (method path : String) :
    c.Serves temporary method path (g.endpoint method path).1 := by
  rw [endpoint]
  cases hfind : g.mounts.find? (·.path == path) with
  | none =>
      have hnone : ∀ m ∈ g.mounts, m.path ≠ path := by simpa using hfind
      simp only [mem_mounts_iff hg] at hnone
      refine ⟨fun h => ?_, fun h => ?_, fun h => ?_⟩
      · exact hnone _ (.inl rfl) h.1.symm
      · exact hnone _ (.inr (.inl ⟨h.1, rfl⟩)) h.2.1.symm
      · exact hnone _ (.inr (.inr ⟨h.1, rfl⟩)) h.2.1.symm
  | some m =>
      obtain rfl : m.path = path := by simpa using List.find?_some hfind
      rcases (mem_mounts_iff hg).mp (List.mem_of_find?_eq_some hfind) with
        rfl | ⟨henabled, rfl⟩ | ⟨henabled, rfl⟩
      all_goals
        dsimp only
        split
        next hmethod => simp_all [Config.Serves]
        next hmethod =>
          obtain ⟨hvalidation, hstore, hservices⟩ := paths_ne
          simp_all [Config.Serves, hvalidation.symm, hstore.symm, hservices.symm]

theorem eq_of_serves {method path : String} {e e' : Endpoint}
    (h : c.Serves temporary method path e) (h' : c.Serves temporary method path e') : e = e' := by
  obtain ⟨hvalidation, hstore, hservices⟩ := paths_ne
  cases e <;> cases e' <;> simp_all [Config.Serves]

/-! ## The answer -/

variable {invoke : Invoker} {m : Moment} {r : Inbound} {s : GatewayState} {e : Endpoint}

theorem answerWithin_of_declaresWithin (hbody : r.body.size ≤ g.maxBodyBytes)
    (hdeclared : r.DeclaresWithin g.maxBodyBytes) :
    g.answerWithin invoke m r s e = g.answerAt invoke m r s e := by
  have hroom : ¬ g.bodyLimit r < r.body.size := by
    rw [bodyLimit]
    split
    next n hn =>
      have hn := (hdeclared n hn).1
      omega
    next => omega
  have hannounced : ¬ r.declaredLength?.any (g.maxBodyBytes < ·) = true := by
    cases hlength : r.declaredLength? with
    | none => exact Bool.false_ne_true
    | some n => simpa using (hdeclared n hlength).2
  rw [answerWithin, if_neg hannounced, if_neg (by simp [hroom])]

theorem answerWithin_of_body_gt (hbody : g.maxBodyBytes < r.body.size) (he : e.readsBody = true) :
    ∃ message, g.answerWithin invoke m r s e = (tooLong message, s) := by
  have hlimit : g.bodyLimit r < r.body.size := by
    rw [bodyLimit]
    split <;> omega
  rw [answerWithin]
  split
  next => exact ⟨_, rfl⟩
  next =>
    rw [if_pos (by simp [he, hlimit])]
    exact ⟨_, rfl⟩

/-- A request is answered by its endpoint unless it asks whether other requests may be made. -/
theorem answer_of_ne_options (hmethod : r.method ≠ "OPTIONS") :
    g.answer invoke m r s =
      (g.finish r (g.answerWithin invoke m r s (g.endpoint r.method r.target.routePath).1).1,
        (g.answerWithin invoke m r s (g.endpoint r.method r.target.routePath).1).2) := by
  rw [answer]
  simp only [if_neg hmethod]
  rfl

/-- No endpoint but the pipeline says that there is nothing at a path or for a method. -/
theorem status_answerAt_of_ne_pipeline (he : e ≠ .pipeline) :
    (g.answerAt invoke m r s e).1.status ≠ 404 ∧ (g.answerAt invoke m r s e).1.status ≠ 405 := by
  have hanswer : ∀ {a : Answer} {status : Status}, a.status = status →
      Response.isSendable status = true → status ≠ 404 ∧ status ≠ 405 →
      (Response.ofAnswer a).status ≠ 404 ∧ (Response.ofAnswer a).status ≠ 405 := by
    rintro a _ rfl hsendable hstatus
    rwa [Response.status_ofAnswer hsendable]
  cases e with
  | health =>
      show (200 : Status) ≠ 404 ∧ (200 : Status) ≠ 405
      decide
  | validation rules =>
      rcases Validation.status_handle m.explain rules r.body with h | h
      · exact hanswer h (by decide) (by decide)
      · exact hanswer h (by decide) (by decide)
  | store file =>
      rcases Store.status_handle (fun files text => files.append file text) m.timestamp r.body
        s.files with h | h
      · exact hanswer h (by decide) (by decide)
      · exact hanswer h (by decide) (by decide)
  | pipeline => exact absurd rfl he

/-- For every request but the question what other requests may be made, one endpoint is the one that
the configuration has for the method and the path. It alone makes the answer, if the body is within
the limit and the request says nothing else. The pipeline is asked for everything that is neither
health nor a service that is offered, and only it ever answers that there is nothing. A body beyond
the limit is refused, except where it is not read, and then no stage is called and nothing is
stored. -/
theorem answer_of_serves (hg : ofConfig? temporary c = some g) (hmethod : r.method ≠ "OPTIONS")
    (invoke : Invoker) (m : Moment) (s : GatewayState) :
    ∃ e, (∀ e', c.Serves temporary r.method r.target.routePath e' ↔ e' = e) ∧
      (r.body.size ≤ c.gateway.maxBodyBytes → r.DeclaresWithin c.gateway.maxBodyBytes →
        g.answer invoke m r s =
          (g.finish r (g.answerAt invoke m r s e).1, (g.answerAt invoke m r s e).2) ∧
        (g.answer invoke m r s).1.status = (g.answerAt invoke m r s e).1.status ∧
        (e = .pipeline → g.answerAt invoke m r s e =
          ((Response.ofResult
              ((Pipeline.ofConfig c).handle .standard invoke r.toRequest s.session).1).withHeader
            requestIdHeader m.requestId,
          { s with
            session := ((Pipeline.ofConfig c).handle .standard invoke r.toRequest s.session).2 })) ∧
        (e ≠ .pipeline → (g.answer invoke m r s).1.status ≠ 404 ∧
          (g.answer invoke m r s).1.status ≠ 405)) ∧
      (c.gateway.maxBodyBytes < r.body.size → e ≠ .health →
        (g.answer invoke m r s).1.status = 413 ∧ (g.answer invoke m r s).2 = s) := by
  have hserves := serves_endpoint hg r.method r.target.routePath
  have hanswer : g.answer invoke m r s = _ := answer_of_ne_options hmethod
  obtain ⟨hpipeline, hmax⟩ :
      g.pipeline = .ofConfig c ∧ g.maxBodyBytes = c.gateway.maxBodyBytes := by
    obtain ⟨cors, -, rfl⟩ := ofConfig?_eq_some_iff.mp hg
    exact ⟨rfl, rfl⟩
  rw [← hmax, ← hpipeline]
  generalize (g.endpoint r.method r.target.routePath).1 = e at hserves hanswer
  refine ⟨e, fun e' => ⟨fun h => eq_of_serves h hserves, fun h => h ▸ hserves⟩, ?_, ?_⟩
  · intro hbody hdeclared
    rw [answerWithin_of_declaresWithin hbody hdeclared] at hanswer
    have hstatus : (g.answer invoke m r s).1.status = (g.answerAt invoke m r s e).1.status := by
      rw [hanswer, status_finish]
    refine ⟨hanswer, hstatus, ?_, fun he => ?_⟩
    · rintro rfl
      rfl
    · rw [hstatus]
      exact status_answerAt_of_ne_pipeline he
  · intro hbody he
    have hreads : e.readsBody = true := by
      cases e with
      | health => exact absurd rfl he
      | _ => rfl
    obtain ⟨message, hrefused⟩ : ∃ message, g.answerWithin invoke m r s e = (tooLong message, s) :=
      answerWithin_of_body_gt hbody hreads
    rw [hrefused] at hanswer
    rw [hanswer, status_finish]
    exact ⟨rfl, rfl⟩

/-- The default configuration has no services, and its gateway reports on its health. -/
theorem answer_of_serves_health : ∃ g, ofConfig? "/tmp" default = some g ∧ "GET" ≠ "OPTIONS" ∧
    (g.answer (fun _ => ⟨.error (.transport ""), 0, false⟩) ⟨"", "", fun _ => ""⟩
      ⟨"GET", .path "/health", [], .empty⟩ ⟨.start none, .empty⟩).1.status = 200 := by
  refine ⟨_, rfl, by decide, ?_⟩
  obtain ⟨e, hserves, hanswer, -⟩ := answer_of_serves (c := default)
    (r := ⟨"GET", .path "/health", [], .empty⟩) rfl (by decide)
    (fun _ => ⟨.error (.transport ""), 0, false⟩) ⟨"", "", fun _ => ""⟩ ⟨.start none, .empty⟩
  obtain rfl := (hserves .health).mp ⟨rfl, .inl rfl⟩
  exact (hanswer (Nat.zero_le _) nofun).2.1

/-- A request for the report on health that says its body is longer than it is. -/
def overstated : Inbound := ⟨"GET", .path "/health", [("content-length", "100".toUTF8)], .empty⟩

/-- A configuration whose gateway reads ten bytes at most and lets origins call. -/
def tight (origins : List String) : Config :=
  { (default : Config) with gateway := ⟨"127.0.0.1", 8080, 10, origins⟩ }

/-- There is no gateway for a configuration that lists the asterisk as an origin. Where there is
one, a request is refused for the length that it says its body has, even if there is no body and
nothing would read it. -/
theorem refused_of_overstated : ofConfig? "/tmp" (tight ["*"]) = none ∧
    ∃ g, ofConfig? "/tmp" (tight []) = some g ∧
      overstated.method ≠ "OPTIONS" ∧ overstated.body.size ≤ (tight []).gateway.maxBodyBytes ∧
      (tight []).Serves "/tmp" overstated.method overstated.target.routePath .health ∧
      ∀ invoke m s, (g.answerAt invoke m overstated s .health).1.status = 200 ∧
        (g.answer invoke m overstated s).1.status = 413 := by
  have hcors : Cors.ofOrigins? ["*"] = none := by decide +kernel
  have hlength : overstated.declaredLength? = some 100 := by decide +kernel
  refine ⟨by simp [ofConfig?, tight, hcors], _, rfl, by decide, by decide, ⟨rfl, .inl rfl⟩,
    fun invoke m s => ⟨rfl, ?_⟩⟩
  rw [answer_of_ne_options (by decide), status_finish, answerWithin, hlength]
  rfl

end Gateway

end StageRelay
