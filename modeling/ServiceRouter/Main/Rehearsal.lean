import ServiceRouter.Main.EphemeralProxy

/-!
# Which headers the ephemeral proxy misses

When every upstream answers, the client sees all that the plugins insert.  So if
they change no route, the two servers differ as soon as something they insert is
seen on a route that reaches an upstream.
-/

namespace ServiceRouter

open Foundation

/-! ## When every upstream answers -/

def calmUpstream : UpstreamResponse where
  status := 200
  headers := MultiMap.empty
  body := .ok []

/-- Every upstream answers with an empty response. -/
def World.calm (world : World) (uuid : String) : World :=
  { world with
    uuid := uuid
    upstream := fun _ _ _ => .ok calmUpstream
    websocket := fun _ _ => .ok () }

/-- The one exchange with the upstream. -/
def calmContact (P : Platform) (req : Request) (base path : String)
    (id : HeaderValue) : ServerExchange :=
  if isWebsocketUpgrade P req then
    ⟨.connectWebsocket (buildWsUrl base path req.query), .ok ()⟩
  else
    ⟨.send {
      method := req.method
      url := buildUpstreamUrl base path req.query
      headers := forwardedHeaders P req.headers id
      body := [] }, .ok calmUpstream⟩

/-- What is answered before the response plugins run. -/
def calmAnswer (P : Platform) (req : Request) (rule : CompiledRoutingRule) :
    Response where
  status := if isWebsocketUpgrade P req then 101 else 200
  headers := ownHeaders P req rule
  body := []

/-- A request that one of the servers can forward is routed by both. -/
def RoutesSame (P : Platform) (state : AppState)
    (chain : List BuiltinPlugin) : Prop :=
  ∀ (req : Request) (rule : CompiledRoutingRule),
    state.Targets P rule req.path →
    (state.router.resolvedRule P req.path req.method
        (req.withHeaders (requestPairsOf P chain)).headers = some rule →
      state.router.resolvedRule P req.path req.method req.headers ≠ none) ∧
    (state.router.resolvedRule P req.path req.method req.headers = some rule →
      state.router.resolvedRule P req.path req.method
        (req.withHeaders (requestPairsOf P chain)).headers ≠ none)

section Calm

variable {P : Platform} {world : World} {uuid requestId base path : String}
  {id : HeaderValue} {req : Request} {rule : CompiledRoutingRule}
  {s : Serving}

theorem visible_forward_calm (hbody : req.body = .ok [])
    (hid : P.headerValue requestId = some id) :
    (Program.serve (Serving.answer P (world.calm uuid)) s
        (forward P req rule base path requestId)).visible
        ServerOp.isContact =
      ([calmContact P req base path id],
        some (.ok (calmAnswer P req rule))) := by
  unfold forward calmContact calmAnswer ownHeaders
  cases hupgrade : isWebsocketUpgrade P req with
  | true => rfl
  | false =>
      have hattempt (retries : Nat) : (Program.serve
          (Serving.answer P (world.calm uuid)) s (attemptWithRetries P req base
            path rule.responseHeaders requestId retries)).visible
            ServerOp.isContact =
          ([⟨.send {
              method := req.method
              url := buildUpstreamUrl base path req.query
              headers := forwardedHeaders P req.headers id
              body := [] }, .ok calmUpstream⟩],
            some (.ok ⟨200,
              responseHeaders P MultiMap.empty rule.responseHeaders, []⟩)) := by
        cases retries with
        | zero =>
            unfold attemptWithRetries proxyHttp
            rw [hbody, hid]
            rfl
        | succ retries =>
            unfold attemptWithRetries proxyHttp
            rw [hbody, hid]
            rfl
      have hloaded := hattempt s.state.config.server.maxRetries
      rw [← proxyWithRetry_eq_attempts hbody] at hloaded
      exact hloaded

/-- The breaker of the state admits every upstream. -/
def AppState.Admits (state : AppState) : Prop :=
  ∀ now upstream, (state.circuitBreaker.allow now upstream).1 = true

theorem admits_new (router : RouterSnapshot)
    (resolver : MultiRegistryResolver) (config : AppConfig) (timeout : Nat)
    (metrics : ProxyMetrics) :
    (AppState.new router resolver config timeout metrics).Admits := by
  intro now upstream
  rw [CircuitBreakerMap.allow_iff]
  by_cases hzero : config.server.circuitBreakerThreshold = 0
  · exact .inl hzero
  · exact .inr (.inl (Nat.pos_of_ne_zero hzero))

theorem not_contact_of_selects {op : ServerOp} (h : op.Selects) :
    ServerOp.isContact op = false := by
  cases op <;> first | rfl | cases h

/-- The choice of an upstream leaves the breaker. -/
theorem circuitBreaker_answer {op : ServerOp} (h : op.Selects) (s : Serving) :
    (s.answer P world op).2.state.circuitBreaker =
      s.state.circuitBreaker := by
  cases op <;> first | rfl | cases h

theorem visible_perform {α : Type} {op : ServerOp}
    (hop : ServerOp.isContact op = false) (P : Platform) (world : World)
    (s : Serving) (f : op.Reply → ServerProgram α) :
    (Program.serve (Serving.answer P world) s
        ((perform op).bind f)).visible ServerOp.isContact =
      (Program.serve (Serving.answer P world) (s.answer P world op).2
        (f (s.answer P world op).1)).visible ServerOp.isContact := by
  have hasks : (perform op).OnlyAsks
      fun op : ServerOp => ServerOp.isContact op = false :=
    ⟨hop, fun _ => trivial⟩
  exact Program.visible_bind hasks rfl f

theorem visible_forwarded_calm (hbody : req.body = .ok [])
    (hid : P.headerValue requestId = some id)
    (pairs : List (HeaderName × HeaderValue)) :
    (Program.serve (Serving.answer P (world.calm uuid)) s
        ((forward P req rule base path requestId).bind
          (finishWith P pairs requestId))).visible ServerOp.isContact =
      ([calmContact P req base path id],
        some (.ok (echoRequestId P requestId { calmAnswer P req rule with
          headers := (ownHeaders P req rule).insertAll pairs }))) := by
  have hforward := @visible_forward_calm P world uuid requestId base path id
    req rule s hbody hid
  unfold Program.Outcome.visible at hforward
  rw [Prod.mk.injEq] at hforward
  obtain ⟨hlog, hresult⟩ := hforward
  rw [Program.serve_bind hresult]
  refine Prod.ext ((List.filter_append ..).trans ?_) rfl
  rw [hlog]
  rfl

theorem visible_routeBy_calm (hadmits : s.state.Admits)
    (hbody : req.body = .ok []) (hid : P.headerValue requestId = some id)
    (hbase : Serving.result P (world.calm uuid)
      (s.answer P (world.calm uuid) (.recordRouteHit rule.id)).2
      (upstreamBaseOf rule path) = some (.ok base))
    (pairs : List (HeaderName × HeaderValue)) :
    (Program.serve (Serving.answer P (world.calm uuid)) s
        (routeBy P (finishWith P pairs requestId) path req rule
          requestId)).visible ServerOp.isContact =
      ([calmContact P req base (rule.rewritePath path) id],
        some (.ok (echoRequestId P requestId { calmAnswer P req rule with
          headers := (ownHeaders P req rule).insertAll pairs }))) := by
  have hhidden : (upstreamBaseOf rule path).OnlyAsks
      fun op : ServerOp => ServerOp.isContact op = false :=
    (upstreamBaseOf_selects rule path).mono fun op => not_contact_of_selects
  have hkept : (Program.serve (Serving.answer P (world.calm uuid))
      (s.answer P (world.calm uuid) (.recordRouteHit rule.id)).2
      (upstreamBaseOf rule path)).state.state.circuitBreaker =
        s.state.circuitBreaker :=
    Program.serve_state (I := ServerInterface)
      (fun t : Serving => t.state.circuitBreaker = s.state.circuitBreaker)
      (fun t op hop ht => (circuitBreaker_answer hop t).trans ht)
      (upstreamBaseOf_selects rule path) rfl
  unfold routeBy
  refine (visible_perform rfl ..).trans ?_
  refine (Program.visible_bind hhidden hbase _).trans ?_
  generalize (Program.serve (Serving.answer P (world.calm uuid))
    (s.answer P (world.calm uuid) (.recordRouteHit rule.id)).2
    (upstreamBaseOf rule path)).state = t at hkept ⊢
  refine (visible_perform rfl ..).trans ?_
  have hallowed : (t.answer P (world.calm uuid) (.breakerAllow base)).1 =
      true := by
    have hadmitted := hadmits ((world.calm uuid).clock t.contacts) base
    rw [← hkept] at hadmitted
    exact hadmitted
  rw [hallowed]
  generalize (t.answer P (world.calm uuid) (.breakerAllow base)).2 = admitted
  exact visible_forwarded_calm hbody hid pairs

theorem seen_of_visible {outcome : Program.Outcome ServerInterface Serving
      (Except ProxyError Response)} {log : List ServerExchange}
    {res : Response}
    (h : outcome.visible ServerOp.isContact = (log, some (.ok res))) :
    seen outcome = (log, some res) := by
  obtain ⟨hlog, hresult⟩ := Prod.mk.inj h
  unfold seen
  rw [hresult]
  exact Prod.ext hlog rfl

/-- The upstream sees one request, and the client what it answers with the
headers of the response plugins. -/
theorem serve_calm {state : AppState} (hadmits : state.Admits)
    (chain : List BuiltinPlugin) (hbody : req.body = .ok [])
    (hid : P.headerValue (requestIdWith P uuid req) = some id)
    (hrule : state.router.resolvedRule P req.path req.method
      (req.withHeaders (requestPairsOf P chain)).headers = some rule)
    (hbase : Serving.result P world ⟨state, 0⟩
      (upstreamBaseOf rule req.path) = some (.ok base)) :
    AppState.serve P (world.calm uuid) { state with pluginChain := chain }
        req =
      ([calmContact P (req.withHeaders (requestPairsOf P chain)) base
          (rule.rewritePath req.path) id],
        some (echoRequestId P (requestIdWith P uuid req)
          { calmAnswer P (req.withHeaders (requestPairsOf P chain)) rule with
            headers := (ownHeaders P
              (req.withHeaders (requestPairsOf P chain)) rule).insertAll
                (responsePairsOf P chain.reverse) })) := by
  have hcalm : Serving.result P (world.calm uuid)
      (Serving.answer P (world.calm uuid) ⟨state, 0⟩
        (.recordRouteHit rule.id)).2
      (upstreamBaseOf rule req.path) = some (.ok base) := by
    have hrandom : (world.calm uuid).randomHash = world.randomHash := rfl
    rw [← hbase]
    refine result_upstreamBaseOf hrandom ?_ rule req.path
    exact ⟨rfl, rfl, rfl, rfl⟩
  rw [serve_moved]
  have hquiet : ServerOp.isContact .loadRouter = false := rfl
  refine seen_of_visible ((visible_perform hquiet ..).trans ?_)
  have hloaded : (Serving.answer P (world.calm uuid) ⟨state, 0⟩
      .loadRouter).1 = state.router := rfl
  rw [hloaded, hrule]
  have hrouted : (req.withHeaders (requestPairsOf P chain)).body = .ok [] :=
    hbody
  exact visible_routeBy_calm hadmits hrouted hid hcalm _

end Calm

/-! ## Headers that are seen -/

theorem getAll_echoRequestId (P : Platform) (requestId : String)
    (res : Response) {name : HeaderName} (hname : name ≠ xRequestId) :
    (echoRequestId P requestId res).headers.getAll name =
      res.headers.getAll name := by
  unfold echoRequestId
  cases P.headerValue requestId with
  | none => rfl
  | some value => exact MultiMap.getAll_insert_ne _ _ hname

theorem status_echoRequestId (P : Platform) (requestId : String)
    (res : Response) : (echoRequestId P requestId res).status = res.status := by
  unfold echoRequestId
  cases P.headerValue requestId <;> rfl

section Seen

variable {P : Platform} {uuid base path : String} {id : HeaderValue}
  {req req' : Request}

theorem upgrade_of_calmContact
    (h : calmContact P req base path id = calmContact P req' base path id) :
    isWebsocketUpgrade P req = isWebsocketUpgrade P req' := by
  unfold calmContact at h
  cases hupgrade : isWebsocketUpgrade P req with
  | true =>
      cases hupgrade' : isWebsocketUpgrade P req' with
      | true => rfl
      | false =>
          rw [hupgrade, hupgrade'] at h
          cases h
  | false =>
      cases hupgrade' : isWebsocketUpgrade P req' with
      | true =>
          rw [hupgrade, hupgrade'] at h
          cases h
      | false => rfl

theorem headers_of_calmContact (hupgrade : isWebsocketUpgrade P req = false)
    (h : calmContact P req base path id = calmContact P req' base path id) :
    forwardedHeaders P req.headers id = forwardedHeaders P req'.headers id := by
  have hupgrade' := upgrade_of_calmContact h
  rw [hupgrade] at hupgrade'
  unfold calmContact at h
  rw [hupgrade, ← hupgrade', if_neg Bool.false_ne_true,
    if_neg Bool.false_ne_true] at h
  have hop := congrArg Exchange.op h
  exact congrArg UpstreamRequest.headers (ServerOp.send.inj hop)

/-- Routing and upgrades depend on the first value of each name. -/
theorem resolvedRule_congr {headers headers' : HeaderMap}
    (h : ∀ name, headers.get? name = headers'.get? name)
    (router : RouterSnapshot) (path method : String) :
    router.resolvedRule P path method headers =
      router.resolvedRule P path method headers' := by
  have hmatches (rule : CompiledRoutingRule) :
      rule.matches P path method headers =
        rule.matches P path method headers' := by
    unfold CompiledRoutingRule.matches headersMatch headerMatches
    simp only [h]
  unfold RouterSnapshot.resolvedRule RouterSnapshot.resolve
  simp only [hmatches]

/-- Some request has the same first values but not this one value alone. -/
theorem exists_same_lookups (headers : HeaderMap) (name : HeaderName)
    (value : HeaderValue) :
    ∃ headers' : HeaderMap, (∀ n, headers'.get? n = headers.get? n) ∧
      headers'.getAll name ≠ [value] := by
  by_cases honly : headers.getAll name = [value]
  · have hget (n : HeaderName) : (headers.append name value).getAll n =
        headers.getAll n ++ if n = name then [value] else [] := by
      rw [MultiMap.getAll, MultiMap.append, List.filter_append,
        List.map_append]
      congr 1
      by_cases hn : n = name
      · simp [hn]
      · simp [hn, Ne.symm hn]
    refine ⟨headers.append name value, fun n => ?_, ?_⟩
    · rw [MultiMap.get?, MultiMap.get?, hget]
      by_cases hn : n = name
      · rw [hn, honly]
        rfl
      · rw [if_neg hn, List.append_nil]
    · rw [hget, honly, if_pos rfl]
      simp
  · exact ⟨headers, fun _ => rfl, honly⟩

section Necessary

variable {state : AppState} {chain : List BuiltinPlugin} {world : World}
  {rule : CompiledRoutingRule}

/-- What a client and the upstream see of a request that reaches it is the
same. -/
theorem calm_alike (hadmits : state.Admits)
    (hempty : state.pluginChain = [])
    (hsame : SameAnswers P uuid { state with pluginChain := chain } state)
    (hroutes : RoutesKept P state.router chain) (hbody : req.body = .ok [])
    (hid : P.headerValue (requestIdWith P uuid req) = some id)
    (hrule : state.router.resolvedRule P req.path req.method req.headers =
      some rule)
    (hbase : Serving.result P world ⟨state, 0⟩
      (upstreamBaseOf rule req.path) = some (.ok base)) :
    calmContact P (req.withHeaders (requestPairsOf P chain)) base
        (rule.rewritePath req.path) id =
      calmContact P req base (rule.rewritePath req.path) id ∧
    ∀ name ≠ xRequestId,
      ((ownHeaders P (req.withHeaders (requestPairsOf P chain))
        rule).insertAll (responsePairsOf P chain.reverse)).getAll name =
        (ownHeaders P req rule).getAll name := by
  have hproduction := serve_calm hadmits chain hbody hid
    ((hroutes req).trans hrule) hbase
  have hephemeral := serve_calm hadmits [] hbody hid hrule hbase
  have hstate : { state with pluginChain := [] } = state := by rw [← hempty]
  rw [hstate] at hephemeral
  obtain ⟨hcontacts, hresponses⟩ := hsame (world.calm uuid) rfl req
  rw [hproduction, hephemeral] at hcontacts hresponses
  refine ⟨(List.cons.inj hcontacts).1, fun name hname => ?_⟩
  cases hresponses with
  | some hresponse =>
      have hheaders := hresponse.headers name
      rw [getAll_echoRequestId P _ _ hname,
        getAll_echoRequestId P _ _ hname] at hheaders
      exact hheaders

/-- What is inserted under an end-to-end name is forwarded. -/
theorem hopByHop_of_sameAnswers (htexts : P.TextsValid)
    (huuid : (P.headerValue uuid).isSome = true) (hadmits : state.Admits)
    (hempty : state.pluginChain = [])
    (hsame : SameAnswers P uuid { state with pluginChain := chain } state)
    (hroutes : RoutesKept P state.router chain)
    (hrule : state.router.resolvedRule P req.path req.method req.headers =
      some rule)
    (hbase : Serving.result P world ⟨state, 0⟩
      (upstreamBaseOf rule req.path) = some (.ok base))
    (hupgrade : isWebsocketUpgrade P req = false)
    {pair : HeaderName × HeaderValue} (hpair : pair ∈ requestPairsOf P chain) :
    isHopByHop P pair.1.asStr = true := by
  obtain ⟨name, value⟩ := pair
  obtain ⟨last, hlast⟩ : ∃ last, ((⟨requestPairsOf P chain⟩ :
      HeaderMap).getAll name).getLast? = some last := by
    apply Option.isSome_iff_exists.mp
    rw [List.getLast?_isSome]
    exact List.ne_nil_of_mem (MultiMap.mem_getAll.mpr hpair)
  obtain ⟨headers, hlookups, honly⟩ :=
    exists_same_lookups req.headers name last
  obtain ⟨id, hid⟩ := Option.isSome_iff_exists.mp
    (isSome_requestIdWith htexts huuid { req with headers := headers })
  have hrule' := (resolvedRule_congr hlookups state.router req.path
    req.method).trans hrule
  have hupgrade' : isWebsocketUpgrade P
      { req with headers := headers, body := .ok [] } = false := by
    rw [← hupgrade]
    unfold isWebsocketUpgrade
    rw [hlookups]
  have hcontact := (@calm_alike P uuid base id
    { req with headers := headers, body := .ok [] } state chain world rule
    hadmits hempty hsame hroutes rfl hid hrule' hbase).1
  have hforwarded := congrArg (·.getAll name)
    (headers_of_calmContact ((upgrade_of_calmContact hcontact).trans hupgrade')
      hcontact)
  by_contra hend
  rw [Bool.not_eq_true] at hend
  have hinserted : (headers.insertAll (requestPairsOf P chain)).getAll name =
      [last] := by
    rw [MultiMap.getAll_insertAll, hlast]
  simp only [getAll_forwardedHeaders, hend, Bool.false_eq_true, if_false]
    at hforwarded
  exact honly ((List.append_cancel_right hforwarded).symm.trans hinserted)

theorem injectsUnseen_of_sameAnswers (htexts : P.TextsValid)
    (huuid : (P.headerValue uuid).isSome = true) (hadmits : state.Admits)
    (hempty : state.pluginChain = [])
    (hsame : SameAnswers P uuid { state with pluginChain := chain } state)
    (hroutes : RoutesKept P state.router chain) :
    InjectsUnseen P state chain := by
  rintro req rule hrule ⟨world, base, hbase⟩
  obtain ⟨id, hid⟩ := Option.isSome_iff_exists.mp
    (isSome_requestIdWith htexts huuid req)
  obtain ⟨hcontact, hheaders⟩ := @calm_alike P uuid base id
    { req with body := .ok [] } state chain world rule hadmits hempty hsame
    hroutes rfl hid hrule hbase
  have hupgrade : isWebsocketUpgrade P
      (req.withHeaders (requestPairsOf P chain)) = isWebsocketUpgrade P req :=
    upgrade_of_calmContact hcontact
  refine ⟨hupgrade, fun hplain pair hpair => ?_, fun name hname value
    hvalue => ?_⟩
  · exact hopByHop_of_sameAnswers htexts huuid hadmits hempty hsame hroutes
      hrule hbase hplain hpair
  · unfold ExtraHeaders.value? at hvalue
    have hname' := hheaders name hname
    rw [MultiMap.getAll_insertAll] at hname'
    have hlast : ((⟨responsePairsOf P chain.reverse⟩ :
        HeaderMap).getAll name).getLast? = some value := hvalue
    rw [hlast] at hname'
    exact hname'.symm

/-- A request that reaches an upstream is not answered as unrouted. -/
theorem status_of_routed (htexts : P.TextsValid)
    (huuid : (P.headerValue uuid).isSome = true) (hadmits : state.Admits)
    (hrule : state.router.resolvedRule P req.path req.method
      (req.withHeaders (requestPairsOf P chain)).headers = some rule)
    (hbase : Serving.result P world ⟨state, 0⟩
      (upstreamBaseOf rule req.path) = some (.ok base)) :
    ∃ res, (AppState.serve P (world.calm uuid)
        { state with pluginChain := chain }
        { req with body := .ok [] }).2 = some res ∧ res.status ≠ 503 := by
  obtain ⟨id, hid⟩ := Option.isSome_iff_exists.mp
    (isSome_requestIdWith htexts huuid req)
  have hserved := @serve_calm P world uuid base id
    { req with body := .ok [] } rule state hadmits chain rfl hid hrule hbase
  refine ⟨_, congrArg Prod.snd hserved, ?_⟩
  rw [status_echoRequestId]
  unfold calmAnswer
  dsimp only
  split <;> decide

theorem status_of_unrouted (world : World)
    (hnone : state.router.resolvedRule P req.path req.method
      (req.withHeaders (requestPairsOf P chain)).headers = none) :
    (AppState.serve P (world.calm uuid) { state with pluginChain := chain }
        { req with body := .ok [] }).2 =
      some (ProxyError.noInstances req.path).intoResponse := by
  rw [serve_response]
  have hunrouted := @result_handleBy_of_none P (world.calm uuid)
    ⟨{ state with pluginChain := chain }, 0⟩
    (finishWith P (responsePairsOf P chain.reverse)
      (requestIdWith P uuid { req with body := .ok [] }))
    { req with body := .ok [] }
    (Request.withHeaders { req with body := .ok [] } (requestPairsOf P chain))
    (requestIdWith P uuid { req with body := .ok [] }) hnone
  exact congrArg (Option.map clientResponse) hunrouted

theorem routesSame_of_sameAnswers (htexts : P.TextsValid)
    (huuid : (P.headerValue uuid).isSome = true) (hadmits : state.Admits)
    (hempty : state.pluginChain = [])
    (hsame : SameAnswers P uuid { state with pluginChain := chain } state) :
    RoutesSame P state chain := by
  have hstate : { state with pluginChain := [] } = state := by rw [← hempty]
  rintro req rule ⟨world, base, hbase⟩
  have hresponses :=
    (hsame (world.calm uuid) rfl { req with body := .ok [] }).2
  constructor
  · intro hrule hnone
    obtain ⟨res, hres, hstatus⟩ :=
      status_of_routed htexts huuid hadmits hrule hbase
    have hunrouted := @status_of_unrouted P uuid req state [] world hnone
    rw [hstate] at hunrouted
    rw [hres, hunrouted] at hresponses
    cases hresponses with
    | some hresponse => exact hstatus hresponse.status
  · intro hrule hnone
    obtain ⟨res, hres, hstatus⟩ := @status_of_routed P uuid base req state []
      world rule htexts huuid hadmits hrule hbase
    rw [hstate] at hres
    rw [status_of_unrouted world hnone, hres] at hresponses
    cases hresponses with
    | some hresponse => exact hstatus hresponse.status.symm

end Necessary

end Seen

private theorem visibleChar_of_octet : ∀ n < 127, 32 ≤ n ∨ n = 9 →
    ((32 ≤ (Char.ofNat n).toNat && (Char.ofNat n).toNat < 127) ||
      Char.ofNat n = '\t') = true := by
  decide +kernel

theorem plain_textsValid : Platform.plain.TextsValid := by
  intro value text htext
  change showHeaderValue value = some text at htext
  change (parseHeaderValue text).isSome = true
  unfold showHeaderValue at htext
  split at htext
  · next hvisible =>
      cases htext
      unfold parseHeaderValue
      rw [if_pos]
      · rfl
      · rw [String.toList_ofList, List.all_map, List.all_eq_true]
        intro b hb
        have hoctet := List.all_eq_true.mp hvisible b hb
        simp only [Bool.or_eq_true, Bool.and_eq_true, decide_eq_true_eq,
          UInt8.le_iff_toNat_le, UInt8.lt_iff_toNat_lt,
          ← UInt8.toNat_inj] at hoctet
        change 32 ≤ b.toNat ∧ b.toNat < 127 ∨ b.toNat = 9 at hoctet
        exact visibleChar_of_octet b.toNat (by omega) (by omega)
  · cases htext

def exampleUuid : String := "0b7e2f60-9c1d-4a57-8f3e-5d2c7a9b1e44"

theorem exampleUuid_valid :
    (Platform.plain.headerValue exampleUuid).isSome = true := by
  decide +kernel

def oneRoute : RoutingRule where
  id := "all"
  path := .prefix_ ""
  serviceId := none
  upstreamUrl := some "http://10.0.0.1"
  stripPrefix := none

def oneRouteConfig (plugin : PluginConfig) : AppConfig where
  server := { plugins := [plugin] }
  routes := [oneRoute]

def oneRule : CompiledRoutingRule where
  id := "all"
  compiledPath := .prefix_ ""
  methods := none
  headers := none
  serviceId := none
  upstreamUrl := some "http://10.0.0.1"
  stripPrefix := none
  responseHeaders := none
  priority := 100

def oneRouteState (plugin : PluginConfig) : AppState :=
  AppState.new ⟨[oneRule]⟩ (.new [] .priority) (oneRouteConfig plugin) 30 {}

/-- A plugin that sets one header. -/
def headerPlugin (name header value : String) : PluginConfig where
  name := name
  config := .object [("headers", .object [(header, .string value)])]

def headerPluginYaml (name header value : String) : String :=
  "server:\n  plugins:\n    - name: " ++ name ++
  "\n      config:\n        headers:\n          " ++ header ++ ": " ++
  value ++ "\nregistries: \x7b\x7d\nroutes:\n  - id: all\n    path:\n" ++
  "      type: prefix\n      value: \"\"\n" ++
  "    upstream_url: http://10.0.0.1\nlog_level: info\n"

def gatewayPlugin : PluginConfig :=
  headerPlugin "response-headers" "x-gateway" "sr"

def gatewayYaml : String :=
  headerPluginYaml "response-headers" "x-gateway" "sr"

def trailersPlugin : PluginConfig :=
  headerPlugin "request-headers" "te" "trailers"

def trailersYaml : String :=
  headerPluginYaml "request-headers" "te" "trailers"

def gatewayHost : ConfigHost where
  envVar _ := none
  configFromYaml text :=
    if text = gatewayYaml then .ok (oneRouteConfig gatewayPlugin)
    else if text = trailersYaml then .ok (oneRouteConfig trailersPlugin)
    else .error "invalid type"
  overridesFromYaml _ := .error "missing field overrides"

theorem load_gateway :
    loadConfig .plain gatewayHost configYaml (.ok gatewayYaml) =
      .ok (oneRouteConfig gatewayPlugin) := by
  apply loadConfig_of_no_placeholder
  · apply placeholders_of_no_dollar
    decide +kernel
  · simp [gatewayHost]
  · rfl

theorem load_trailers :
    loadConfig .plain gatewayHost configYaml (.ok trailersYaml) =
      .ok (oneRouteConfig trailersPlugin) := by
  have hother : trailersYaml ≠ gatewayYaml := by decide +kernel
  apply loadConfig_of_no_placeholder
  · apply placeholders_of_no_dollar
    decide +kernel
  · simp [gatewayHost, hother]
  · rfl

section OneRoute

variable {plugin : PluginConfig} {chain : List BuiltinPlugin}
  {file : FileRead}

theorem startEphemeralProxy_oneRoute
    (hload : loadConfig .plain gatewayHost configYaml file =
      .ok (oneRouteConfig plugin)) :
    startEphemeralProxy .plain gatewayHost noClients configYaml file =
      .ok (oneRouteState plugin) :=
  startEphemeralProxy_eq_ok.mpr ⟨_, _, _, hload, rfl, rfl, rfl⟩

theorem startProduction_oneRoute
    (hload : loadConfig .plain gatewayHost configYaml file =
      .ok (oneRouteConfig plugin))
    (hchain : buildPluginChain [plugin] = .ok chain) :
    startProduction .plain gatewayHost noClients configYaml file 0 =
      .ok { oneRouteState plugin with pluginChain := chain } :=
  startProduction_eq_ok.mpr ⟨_, _, _, chain, hload, rfl, rfl, hchain, rfl⟩

theorem resolvedRule_oneRule (method : String) (path : String)
    (headers : HeaderMap) :
    RouterSnapshot.resolvedRule .plain ⟨[oneRule]⟩ path method headers =
      some oneRule := by
  have hmatches : oneRule.matches .plain path method headers = true := rfl
  rw [RouterSnapshot.resolvedRule, RouterSnapshot.resolve]
  simp [List.findFinIdx?_cons, hmatches]

theorem routesKept_oneRule (chain : List BuiltinPlugin) :
    RoutesKept .plain ⟨[oneRule]⟩ chain := by
  intro req
  rw [resolvedRule_oneRule, resolvedRule_oneRule]

end OneRoute

def trailersChain : List BuiltinPlugin :=
  [.requestHeaders [("te", "trailers")]]

def gatewayChain : List BuiltinPlugin :=
  [.responseHeaders [("x-gateway", "sr")]]

end ServiceRouter
