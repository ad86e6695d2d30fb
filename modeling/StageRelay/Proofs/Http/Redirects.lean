import StageRelay.Http.Redirects

/-!
# Requests on the network

What a stage asks of a service is sent as one request, and the answer is that of the service,
whatever its status, unless the response points to another place. A client that follows such a
response goes there: the response is not the answer, and the requests of one stage become more, up
to eleven of them.

How a client follows responses is its own affair. Only what is documented of it is used here, as the
hypothesis `Redirects.Documented`, which `Redirects.usual` meets.
-/

namespace StageRelay

/-- A response asks for its request to be made at another place. The location may be relative to
the URL that has been asked. -/
def WireResponse.PointsTo (r : WireResponse) (base target : Url) : Prop :=
  r.status ∈ WireResponse.movedStatuses ∧
    ∃ l, r.location = some l ∧ Url.parse? (some base) l = some target

/-- The URLs lead to the same resource of the same server. They may differ in what is not sent to
it, the user and the fragment. -/
structure Url.SamePlace (u v : Url) : Prop where
  scheme : u.scheme = v.scheme
  host : u.host = v.host
  port : u.port = v.port
  path : u.path = v.path
  query : u.query = v.query

/-- A request that is made because the response to another one points to a URL. It says where it
comes from, unless that was a place reached in secret and this is not. -/
structure WireRequest.Follows (next previous : WireRequest) (target : Url) : Prop where
  place : next.url.SamePlace target
  referer : ¬ (previous.url.scheme = "https" ∧ target.scheme = "http") →
    next.headers.get? "referer" = some previous.url.referer

/-- What is documented of the way a client follows responses: which ones, and by which requests. A
response that points to a place to which requests can be sent is followed there. Responses that
point nowhere are not followed, and no request is made to a place to which none can be sent. -/
structure Redirects.Documented (redirects : Redirects) : Prop where
  followed {r : WireRequest} {response : WireResponse} {target : Url}
    (h : response.PointsTo r.url target) (htarget : WireRequest.isSendable target = true) :
    ∃ next, redirects r response = some (.ok next)
  pointed {r : WireRequest} {response : WireResponse} {next : Except ClientError WireRequest}
    (h : redirects r response = some next) : ∃ target, response.PointsTo r.url target
  request {r : WireRequest} {response : WireResponse} {target : Url} {next : WireRequest}
    (h : response.PointsTo r.url target) (hnext : redirects r response = some (.ok next)) :
    WireRequest.isSendable target = true ∧ next.Follows r target

namespace WireRequest

variable {r next : WireRequest} {response : WireResponse}

/-- A request to a URL that can be sent to, with headers that can be sent. -/
theorem ofRequest_eq_ok {q : HttpRequest} {u : Url} (hmethod : Http.isToken q.method = true)
    (hurl : Url.parse? none q.url = some u) (hsendable : isSendable u.sent = true)
    (hheaders : ∀ h ∈ q.headers.toList, isHeader h.1 h.2 = true) :
    ofRequest q = .ok ⟨q.method, u.sent, u.credentials?, q.headers, q.body⟩ := by
  have hall : q.headers.toList.all (fun h => isHeader h.1 h.2) = true :=
    List.all_eq_true.mpr hheaders
  rw [ofRequest, hmethod]
  simp only [hurl, hall, hsendable, Bool.not_true, Bool.and_false, Bool.false_eq_true, if_true,
    if_false]

/-! ## The usual way -/

/-- Headers of other names stay. -/
theorem get?_withoutHeaders {names : List String} {name value : String}
    (hname : Ascii.lower name ∉ names) (h : r.headers.get? name = some value) :
    (r.withoutHeaders names).headers.get? name = some value := by
  have hkeys : ((r.headers.toList.filter fun e => !names.contains (Ascii.lower e.1)).map
      Prod.fst).Nodup := r.headers.nodup_keys.sublist (List.filter_sublist.map Prod.fst)
  refine SortedMap.get?_eq_some_iff.mpr ((SortedMap.mem_ofList_iff hkeys).mpr ?_)
  exact List.mem_filter.mpr ⟨SortedMap.get?_eq_some_iff.mp h, by simpa using hname⟩

theorem get?_referredBy {previous : Url}
    (h : ¬ (previous.scheme = "https" ∧ r.url.scheme = "http")) :
    (r.referredBy previous).headers.get? "referer" = some previous.referer := by
  rw [referredBy, if_neg h]
  exact SortedMap.get?_insert_self _ _ _

theorem url_movedTo (r : WireRequest) (u : Url) : (r.movedTo u).url = u := by
  rw [movedTo]
  split <;> rfl

theorem url_referredBy (r : WireRequest) (previous : Url) :
    (r.referredBy previous).url = r.url := by
  rw [referredBy]
  split <;> rfl

/-- A request that is moved says where it comes from. What is done to it for the sake of another
server does not touch that header. -/
theorem follows_referredBy (r : WireRequest) (target : Url) :
    ((r.movedTo target).referredBy r.url).Follows r target := by
  have hurl : ((r.movedTo target).referredBy r.url).url = target := by
    rw [url_referredBy, url_movedTo]
  refine ⟨?_, fun h => get?_referredBy (by rwa [url_movedTo])⟩
  rw [hurl]
  exact ⟨rfl, rfl, rfl, rfl, rfl⟩

/-- A plain query says where it comes from as well. -/
theorem Follows.asQuery {previous : WireRequest} {target : Url} (h : next.Follows previous target) :
    next.asQuery.Follows previous target :=
  ⟨h.place, fun hopen => get?_withoutHeaders (by decide) (h.referer hopen)⟩

end WireRequest

namespace Redirects

variable {r : WireRequest} {response : WireResponse} {target : Url}

/-- What the usual way makes of a response that points to a place. -/
theorem usual_of_pointsTo (h : response.PointsTo r.url target) :
    usual r response =
      if WireRequest.isSendable target then
        let moved := (r.movedTo target).referredBy r.url
        some (.ok (if response.status < 307 then moved.asQuery else moved))
      else if WireRequest.isHttpScheme target.scheme then none
      else some (.error (WireRequest.unsendableTo target)) := by
  obtain ⟨hstatus, l, hlocation, htarget⟩ := h
  have hmoved : WireResponse.movedStatuses.contains response.status = true :=
    List.contains_iff_mem.mpr hstatus
  simp only [usual, hmoved, hlocation, htarget, Option.bind_some, Bool.not_true,
    Bool.false_eq_true, if_false]

theorem pointsTo_of_usual {next : Except ClientError WireRequest}
    (h : usual r response = some next) : ∃ target, response.PointsTo r.url target := by
  rw [usual] at h
  split at h
  next => cases h
  next hstatus =>
    split at h
    next => cases h
    next target htarget =>
      obtain ⟨l, hl, htarget⟩ := Option.bind_eq_some_iff.mp htarget
      exact ⟨target, List.contains_iff_mem.mp (by simpa using hstatus), l, hl, htarget⟩

/-- The usual way is as documented, so that what is shown of every documented way is shown of the
program that runs. -/
theorem documented_usual : Documented usual where
  followed h htarget := by
    rw [usual_of_pointsTo h, if_pos htarget]
    exact ⟨_, rfl⟩
  pointed := pointsTo_of_usual
  request {r response target next} h hnext := by
    rw [usual_of_pointsTo h] at hnext
    split at hnext
    next htarget =>
      refine ⟨htarget, ?_⟩
      have hfollows := r.follows_referredBy target
      obtain rfl := Except.ok.inj (Option.some.inj hnext)
      split
      · exact hfollows.asQuery
      · exact hfollows
    next =>
      split at hnext
      next => cases hnext
      next => cases Option.some.inj hnext

end Redirects

namespace Client

variable {redirects : Redirects} {network : Network} {r next : WireRequest}
variable {response : WireResponse}

/-- A response that is followed makes one more request in place of the first. What comes of that
request is what comes of the whole. -/
theorem send_of_followed (hresponse : network r = some response)
    (hnext : redirects r response = some (.ok next)) (n : Nat) :
    send redirects network (n + 1) r =
      (r :: (send redirects network n next).1, (send redirects network n next).2) := by
  rw [send, hresponse]
  simp only [hnext]

/-- What comes of a request: nothing, the answer, or one more request in its place. -/
theorem send_cases (redirects : Redirects) (network : Network) (n : Nat) (r : WireRequest) :
    (∃ e, send redirects network n r = ([r], .error e)) ∨
    (∃ response, network r = some response ∧ redirects r response = none ∧
      send redirects network n r = ([r], .ok ⟨response.status, response.body⟩)) ∨
    ∃ response next k, network r = some response ∧ redirects r response = some (.ok next) ∧
      n = k + 1 := by
  cases hresponse : network r with
  | none =>
      refine .inl ?_
      cases n <;> rw [send, hresponse] <;> exact ⟨_, rfl⟩
  | some response =>
      cases hnext : redirects r response with
      | none =>
          refine .inr (.inl ⟨response, rfl, hnext, ?_⟩)
          cases n <;> rw [send, hresponse] <;> simp only [hnext]
      | some result =>
          cases n with
          | zero =>
              refine .inl ?_
              rw [send, hresponse]
              simp only [hnext]
              exact ⟨_, rfl⟩
          | succ k =>
              cases result with
              | error e =>
                  refine .inl ⟨e, ?_⟩
                  rw [send, hresponse]
                  simp only [hnext]
              | ok next => exact .inr (.inr ⟨response, next, k, rfl, hnext, rfl⟩)

/-- The requests of one are this request alone, or it and those of the next one. -/
theorem requests_send (redirects : Redirects) (network : Network) (n : Nat) (r : WireRequest) :
    (send redirects network n r).1 = [r] ∨ ∃ next k, n = k + 1 ∧
      (send redirects network n r).1 = r :: (send redirects network k next).1 := by
  obtain ⟨e, h⟩ | ⟨response, -, -, h⟩ | ⟨response, next, k, hresponse, hnext, rfl⟩ :=
    send_cases redirects network n r
  · exact .inl (congrArg Prod.fst h)
  · exact .inl (congrArg Prod.fst h)
  · exact .inr ⟨next, k, rfl, congrArg Prod.fst (send_of_followed hresponse hnext k)⟩

/-- The first request that is sent is the one that was asked for. -/
theorem head?_send (redirects : Redirects) (network : Network) (n : Nat) (r : WireRequest) :
    (send redirects network n r).1.head? = some r := by
  obtain h | ⟨next, k, -, h⟩ := requests_send redirects network n r
  all_goals
    rw [h]
    rfl

/-- One request is sent, and at most one more for each response that may be followed. -/
theorem length_send_le (redirects : Redirects) (network : Network) (n : Nat) (r : WireRequest) :
    (send redirects network n r).1.length ≤ n + 1 := by
  induction n generalizing r with
  | zero =>
      obtain h | ⟨next, k, hk, -⟩ := requests_send redirects network 0 r
      · rw [h]
        exact Nat.le_refl _
      · cases hk
  | succ n ih =>
      obtain h | ⟨next, k, hk, h⟩ := requests_send redirects network (n + 1) r
      · rw [h]
        exact Nat.succ_le_succ (Nat.zero_le _)
      · obtain rfl := Nat.succ.inj hk
        rw [h]
        exact Nat.succ_le_succ (ih next)

/-- The response to the first request is all there is just when it is not followed. -/
theorem send_eq_iff (redirects : Redirects) (hresponse : network r = some response) (n : Nat) :
    send redirects network n r = ([r], .ok ⟨response.status, response.body⟩) ↔
      redirects r response = none := by
  obtain ⟨e, h⟩ | ⟨response', hsome, hnone, h⟩ | ⟨response', next, k, hsome, hnext, rfl⟩ :=
    send_cases redirects network n r
  · rw [h]
    refine iff_of_false nofun fun hnone => ?_
    have hanswer : send redirects network n r = ([r], .ok ⟨response.status, response.body⟩) := by
      cases n <;> rw [send, hresponse] <;> simp only [hnone]
    cases congrArg Prod.snd (h.symm.trans hanswer)
  all_goals obtain rfl : response' = response := Option.some.inj (hsome.symm.trans hresponse)
  · exact iff_of_true h hnone
  · refine iff_of_false (fun h => ?_) (by simp [hnext])
    rw [send_of_followed hresponse hnext] at h
    have hnil : (send redirects network k next).1 = [] :=
      (List.cons.inj (congrArg Prod.fst h)).2
    have hhead := head?_send redirects network k next
    rw [hnil] at hhead
    cases hhead

/-! ## Stages -/

/-- The request on the network that a call becomes, to a URL. -/
def wireRequestOf (c : Call) (u : Url) : WireRequest :=
  ⟨c.service.method.name, u.sent, u.credentials?, c.service.headers,
    if c.service.method.carriesBody then some c.payload else none⟩

/-- A call of a service whose URI and headers can be sent begins with the one request for it. If
this is answered, it is the only one, and the answer is that of the service, just when the client
does not follow the response; the stage gets the answer that the client gets. A response that points
nowhere is not followed. One that points to a place to which requests can be sent is followed there:
a second request is made, which names the first. There are never more than eleven requests. -/
theorem exchange_httpRequest_eq_iff {redirects : Redirects} (hdocumented : redirects.Documented)
    {network : Network} {c : Call} {u : Url} {response : WireResponse}
    (hurl : Url.parse? none c.service.uri = some u)
    (hsendable : WireRequest.isSendable u.sent = true)
    (hheaders : ∀ h ∈ c.service.headers.toList, WireRequest.isHeader h.1 h.2 = true)
    (hresponse : network (wireRequestOf c u) = some response) (earlier : List Call) :
    (exchange redirects network c.httpRequest =
        ([wireRequestOf c u], .ok ⟨response.status, response.body⟩) ↔
      redirects (wireRequestOf c u) response = none) ∧
    (redirects (wireRequestOf c u) response = none →
      (Invoker.ofClient (overNetwork redirects network) (c :: earlier)).result =
        .ok ⟨response.status, response.body⟩) ∧
    ((∀ target, ¬ response.PointsTo u.sent target) →
      redirects (wireRequestOf c u) response = none) ∧
    (∀ target, response.PointsTo u.sent target → WireRequest.isSendable target = true →
      ∃ next later, (exchange redirects network c.httpRequest).1 =
          wireRequestOf c u :: next :: later ∧
        next.Follows (wireRequestOf c u) target) ∧
    (exchange redirects network c.httpRequest).1.head? = some (wireRequestOf c u) ∧
    (exchange redirects network c.httpRequest).1.length ≤ 11 := by
  have hmethod : Http.isToken c.httpRequest.method = true := by
    show Http.isToken c.service.method.name = true
    cases c.service.method <;> decide
  have hexchange : exchange redirects network c.httpRequest =
      send redirects network maxRedirects (wireRequestOf c u) := by
    rw [exchange, WireRequest.ofRequest_eq_ok hmethod hurl hsendable hheaders]
    rfl
  have hiff := send_eq_iff redirects hresponse maxRedirects
  rw [hexchange]
  refine ⟨hiff, fun hfinal => ?_, fun hnowhere => ?_, fun target htarget hsend => ?_,
    head?_send _ _ _ _, length_send_le _ _ _ _⟩
  · show (exchange redirects network c.httpRequest).2.mapError CallError.ofClient = _
    rw [hexchange, hiff.mpr hfinal]
    rfl
  · rw [Option.eq_none_iff_forall_ne_some]
    intro next hnext
    obtain ⟨target, htarget⟩ := hdocumented.pointed hnext
    exact hnowhere target htarget
  · obtain ⟨next, hnext⟩ : ∃ next, redirects (wireRequestOf c u) response = some (.ok next) :=
      hdocumented.followed htarget hsend
    obtain ⟨later, hlater⟩ :=
      List.head?_eq_some_iff.mp (head?_send redirects network (maxRedirects - 1) next)
    refine ⟨next, later, ?_, (hdocumented.request htarget hnext).2⟩
    rw [← hlater]
    exact congrArg Prod.fst (send_of_followed hresponse hnext (maxRedirects - 1))

def sampleCall : Call := ⟨⟨"http://127.0.0.1/a", .post, .empty⟩, "x".toUTF8⟩

def sampleUrl (name : String) : Url :=
  ⟨"http", "", "", some (.ipv4 0x7F000001), none, .segments [name], none, none⟩

/-- An answer that nothing is there is the answer that the stage gets. -/
theorem exchange_httpRequest_of_missing :
    (exchange .usual (fun _ => some ⟨404, none, "none".toUTF8⟩) sampleCall.httpRequest).1.length =
        1 ∧
      (Invoker.ofClient (overNetwork .usual fun _ => some ⟨404, none, "none".toUTF8⟩)
        [sampleCall]).result = .ok ⟨404, "none".toUTF8⟩ := by
  have hnowhere : ∀ target, ¬ WireResponse.PointsTo ⟨404, none, "none".toUTF8⟩
      (sampleUrl "a").sent target := fun target h => absurd h.1 (by decide)
  obtain ⟨hiff, hresult, hnone, -, -, -⟩ := @exchange_httpRequest_eq_iff .usual
    Redirects.documented_usual (fun _ => some ⟨404, none, "none".toUTF8⟩) sampleCall
    (sampleUrl "a") _ (by decide +kernel) (by decide +kernel) (List.forall_mem_nil _) rfl []
  rw [hiff.mpr (hnone hnowhere)]
  exact ⟨rfl, hresult (hnone hnowhere)⟩

/-- A network on which one path has moved to another. -/
def moved : Network := fun r =>
  if r.url = sampleUrl "a" then some ⟨302, some "/b", "moved".toUTF8⟩
  else some ⟨200, none, "here".toUTF8⟩

/-- A response that points to another place makes two requests of one, the second without payload,
and the stage gets the answer of that place. -/
theorem exchange_httpRequest_of_moved :
    exchange .usual moved sampleCall.httpRequest =
      ([⟨"POST", sampleUrl "a", none, .empty, some "x".toUTF8⟩,
        ⟨"GET", sampleUrl "b", none, .ofList [("referer", "http://127.0.0.1/a")], none⟩],
        .ok ⟨200, "here".toUTF8⟩) ∧
    moved (wireRequestOf sampleCall (sampleUrl "a")) = some ⟨302, some "/b", "moved".toUTF8⟩ := by
  exact ⟨rfl, rfl⟩

end Client

end StageRelay
