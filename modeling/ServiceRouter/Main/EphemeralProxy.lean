import ServiceRouter.Main.ResolverReload
import ServiceRouter.Proxy.RequestHeaders
import ServiceRouter.Proxy.ResponseHeaders
import ServiceRouter.Server.PluggedHandler
import ServiceRouter.Server.RetryLaw

/-!
# The ephemeral proxy

`smoke-proxy` and `replay` build a server of their own.  It differs from the
production server in its plugin chain, which is empty.  The two serve every
request alike if the headers that the plugins of the configuration insert change
no route and are not seen on the routes that reach an upstream.
-/

namespace ServiceRouter

open Foundation

/-! ## The two ways to start -/

inductive ServeError where
  | startup (error : StartupError)
  | watcher (reason : String)
  | plugins (reason : String)
  | bind (listenAddr reason : String)
  deriving DecidableEq

/-- What the operating system answers while a server starts. -/
structure ListenHost where
  watch : PathBuf → Except String Unit
  bind : String → Except String Unit

def attachPlugins (state : ServerState MultiRegistryResolver) :
    Except String AppState := do
  let config := state.configSlot.config
  let pluginChain ← buildPluginChain config.server.plugins
  return { AppState.new state.router state.resolver config
    config.server.upstreamTimeoutSecs {} with pluginChain := pluginChain }

/-- The state `run_server` serves with, once nothing has failed. -/
def startProduction (P : Platform) (host : ConfigHost)
    (clients : RegistryClients) (configPath : PathBuf) (file : FileRead)
    (addr : Nat) : Except ServeError AppState := do
  let state ← (startServer P host (buildResolver clients) configPath file none
    addr).mapError .startup
  (attachPlugins state).mapError .plugins

def startEphemeralProxy (P : Platform) (host : ConfigHost)
    (clients : RegistryClients) (configPath : PathBuf) (file : FileRead) :
    Except StartupError AppState := do
  let config ← (loadConfig P host configPath file).mapError .config
  let resolver ← (buildResolver clients config).mapError .registries
  let snapshot ← (RouterSnapshot.fromConfig P config).mapError .routes
  return AppState.new snapshot resolver config
    config.server.upstreamTimeoutSecs {}

def AppConfig.listenAddr (config : AppConfig) : String :=
  s!"{config.server.host}:{config.server.port}"

/-- `run_server` up to the point where it serves. -/
def serveProduction (P : Platform) (host : ConfigHost) (os : ListenHost)
    (clients : RegistryClients) (configPath : PathBuf) (file : FileRead)
    (addr : Nat) : Except ServeError AppState := do
  let state ← (startServer P host (buildResolver clients) configPath file none
    addr).mapError .startup
  (os.watch configPath).mapError .watcher
  let app ← (attachPlugins state).mapError .plugins
  (os.bind app.config.listenAddr).mapError (.bind app.config.listenAddr)
  return app

/-- `start_ephemeral_proxy` listens at a port that is free. -/
def serveEphemeral (P : Platform) (host : ConfigHost) (os : ListenHost)
    (clients : RegistryClients) (configPath : PathBuf) (file : FileRead) :
    Except ServeError AppState := do
  let app ← (startEphemeralProxy P host clients configPath file).mapError
    .startup
  (os.bind "127.0.0.1:0").mapError (.bind "127.0.0.1:0")
  return app

section Start

variable {P : Platform} {host : ConfigHost} {clients : RegistryClients}
  {configPath : PathBuf} {file : FileRead} {addr : Nat}
  {production ephemeral : AppState}

theorem startEphemeralProxy_eq_ok :
    startEphemeralProxy P host clients configPath file = .ok ephemeral ↔
      ∃ config resolver snapshot,
        loadConfig P host configPath file = .ok config ∧
        buildResolver clients config = .ok resolver ∧
        RouterSnapshot.fromConfig P config = .ok snapshot ∧
        ephemeral = AppState.new snapshot resolver config
          config.server.upstreamTimeoutSecs {} := by
  simp only [startEphemeralProxy, bind_eq_ok_iff, mapError_eq_ok_iff]
  constructor
  · rintro ⟨config, hload, resolver, hresolver, snapshot, hsnapshot, hdone⟩
    cases hdone
    exact ⟨config, resolver, snapshot, hload, hresolver, hsnapshot, rfl⟩
  · rintro ⟨config, resolver, snapshot, hload, hresolver, hsnapshot, rfl⟩
    exact ⟨config, hload, resolver, hresolver, snapshot, hsnapshot, rfl⟩

theorem startProduction_eq_ok :
    startProduction P host clients configPath file addr = .ok production ↔
      ∃ config resolver snapshot chain,
        loadConfig P host configPath file = .ok config ∧
        buildResolver clients config = .ok resolver ∧
        RouterSnapshot.fromConfig P config = .ok snapshot ∧
        buildPluginChain config.server.plugins = .ok chain ∧
        production = { AppState.new snapshot resolver config
          config.server.upstreamTimeoutSecs {} with
            pluginChain := chain } := by
  simp only [startProduction, attachPlugins, bind_eq_ok_iff,
    mapError_eq_ok_iff, startServer_eq_ok]
  constructor
  · rintro ⟨state, ⟨loaded, config, hload, hoverride, hresolver, hsnapshot,
      hslot, -⟩, chain, hchain, hdone⟩
    cases hoverride
    cases hdone
    rw [hslot] at hchain ⊢
    exact ⟨loaded, _, _, chain, hload, hresolver, hsnapshot, hchain, rfl⟩
  · rintro ⟨config, resolver, snapshot, chain, hload, hresolver, hsnapshot,
      hchain, rfl⟩
    exact ⟨⟨⟨addr, config⟩, resolver, snapshot, none⟩,
      ⟨config, config, hload, rfl, hresolver, hsnapshot, rfl, rfl⟩,
      chain, hchain, rfl⟩

theorem serveProduction_eq_ok {os : ListenHost} :
    serveProduction P host os clients configPath file addr =
        .ok production ↔
      startProduction P host clients configPath file addr = .ok production ∧
        os.watch configPath = .ok () ∧
        os.bind production.config.listenAddr = .ok () := by
  simp only [serveProduction, startProduction, bind_eq_ok_iff,
    mapError_eq_ok_iff]
  constructor
  · rintro ⟨state, hstate, ⟨⟩, hwatch, app, happ, ⟨⟩, hbind, hdone⟩
    cases hdone
    exact ⟨⟨state, hstate, happ⟩, hwatch, hbind⟩
  · rintro ⟨⟨state, hstate, happ⟩, hwatch, hbind⟩
    exact ⟨state, hstate, (), hwatch, production, happ, (), hbind, rfl⟩

theorem serveEphemeral_eq_ok {os : ListenHost} :
    serveEphemeral P host os clients configPath file = .ok ephemeral ↔
      startEphemeralProxy P host clients configPath file = .ok ephemeral ∧
        os.bind "127.0.0.1:0" = .ok () := by
  simp only [serveEphemeral, bind_eq_ok_iff, mapError_eq_ok_iff]
  constructor
  · rintro ⟨app, happ, ⟨⟩, hbind, hdone⟩
    cases hdone
    exact ⟨happ, hbind⟩
  · rintro ⟨happ, hbind⟩
    exact ⟨ephemeral, happ, (), hbind, rfl⟩

/-- Started from one file, the two states differ in the plugin chain only. -/
theorem production_eq_ephemeral
    (hproduction : startProduction P host clients configPath file addr =
      .ok production)
    (hephemeral : startEphemeralProxy P host clients configPath file =
      .ok ephemeral) :
    ∃ chain, buildPluginChain ephemeral.config.server.plugins = .ok chain ∧
      production = { ephemeral with pluginChain := chain } ∧
      ephemeral.pluginChain = [] := by
  obtain ⟨config, resolver, snapshot, chain, hload, hresolver, hsnapshot,
    hchain, rfl⟩ := startProduction_eq_ok.mp hproduction
  obtain ⟨config', resolver', snapshot', hload', hresolver', hsnapshot',
    rfl⟩ := startEphemeralProxy_eq_ok.mp hephemeral
  obtain rfl := Except.ok.inj (hload.symm.trans hload')
  obtain rfl := Except.ok.inj (hresolver.symm.trans hresolver')
  obtain rfl := Except.ok.inj (hsnapshot.symm.trans hsnapshot')
  exact ⟨chain, hchain, rfl, rfl⟩

end Start

/-! ## Serving alike -/

/-- Responses a client cannot tell apart: headers of different names have no
order. -/
structure Response.SameFor (first second : Response) : Prop where
  status : first.status = second.status
  headers : ∀ name, first.headers.getAll name = second.headers.getAll name
  body : first.body = second.body

/-- The same requests reach the upstreams and the same response returns. -/
def SameAnswers (P : Platform) (uuid : String)
    (production ephemeral : AppState) : Prop :=
  ∀ world : World, world.uuid = uuid → ∀ req,
    (production.serve P world req).1 = (ephemeral.serve P world req).1 ∧
      Option.Rel Response.SameFor (production.serve P world req).2
        (ephemeral.serve P world req).2

/-- The headers the plugins insert change the route of no request. -/
def RoutesKept (P : Platform) (router : RouterSnapshot)
    (chain : List BuiltinPlugin) : Prop :=
  ∀ req : Request,
    router.resolvedRule P req.path req.method
        (req.withHeaders (requestPairsOf P chain)).headers =
      router.resolvedRule P req.path req.method req.headers

/-- The choice of an upstream for the rule can succeed. -/
def AppState.Targets (P : Platform) (state : AppState)
    (rule : CompiledRoutingRule) (path : String) : Prop :=
  ∃ world base, Serving.result P world ⟨state, 0⟩
    (upstreamBaseOf rule path) = some (.ok base)

/-- The headers that every answer on the rule carries, whatever the upstream
answers. -/
def ownHeaders (P : Platform) (req : Request) (rule : CompiledRoutingRule) :
    HeaderMap :=
  if isWebsocketUpgrade P req then switchingProtocols.headers
  else responseHeaders P MultiMap.empty rule.responseHeaders

/-- Nothing that the plugins insert is seen on the rule. -/
structure Unseen (P : Platform) (chain : List BuiltinPlugin)
    (rule : CompiledRoutingRule) (req : Request) : Prop where
  upgrade : isWebsocketUpgrade P (req.withHeaders (requestPairsOf P chain)) =
    isWebsocketUpgrade P req
  request : isWebsocketUpgrade P req = false →
    ∀ pair ∈ requestPairsOf P chain, isHopByHop P pair.1.asStr = true
  response : ∀ name ≠ xRequestId, ∀ value,
    ExtraHeaders.value? (some (responsePairsOf P chain.reverse)) name =
      some value → (ownHeaders P req rule).getAll name = [value]

/-- On every route that reaches an upstream nothing inserted is seen. -/
def InjectsUnseen (P : Platform) (state : AppState)
    (chain : List BuiltinPlugin) : Prop :=
  ∀ req rule,
    state.router.resolvedRule P req.path req.method req.headers = some rule →
    state.Targets P rule req.path → Unseen P chain rule req

/-- The texts of header values are valid header values. -/
def Platform.TextsValid (P : Platform) : Prop :=
  ∀ value text, P.headerText value = some text →
    (P.headerValue text).isSome = true

theorem isSome_requestIdWith {P : Platform} (htexts : P.TextsValid)
    {uuid : String} (huuid : (P.headerValue uuid).isSome = true)
    (req : Request) :
    (P.headerValue (requestIdWith P uuid req)).isSome = true := by
  unfold requestIdWith
  cases hid : req.headers.get? xRequestId with
  | none => exact huuid
  | some value =>
      rw [Option.bind_some]
      cases htext : P.headerText value with
      | none => exact huuid
      | some text => exact htexts value text htext

/-! ## Choosing the upstream -/

/-- The operations of the choice of an upstream. -/
def ServerOp.Selects : ServerOp → Prop
  | .resolve _ | .isHealthy _ | .fetchAdd _ | .randomHash _ => True
  | .loadConfig | .recordFailure _ => True
  | _ => False

/-- What the choice of an upstream depends on is the same. -/
structure SameChoice (s t : Serving) : Prop where
  resolver : s.state.resolver = t.state.resolver
  config : s.state.config = t.state.config
  counters : s.state.instanceRrCounters = t.state.instanceRrCounters
  healthStatus : s.state.healthStatus = t.state.healthStatus

theorem upstreamBaseOf_selects (rule : CompiledRoutingRule) (path : String) :
    (upstreamBaseOf rule path).OnlyAsks ServerOp.Selects :=
  upstreamBaseOf_onlyAsks
    (fun _ => ⟨fun _ => trivial, trivial, fun _ => trivial⟩)
    (fun _ => trivial) trivial (fun _ => trivial) rule path

theorem answer_sameChoice (P : Platform) {world world' : World}
    (hrandom : world.randomHash = world'.randomHash) :
    Program.AnswersAlike (I := ServerInterface) (Serving.answer P world)
      (Serving.answer P world') SameChoice ServerOp.Selects := by
  intro s t op h hop
  cases op with
  | resolve serviceId => exact ⟨congrArg (·.resolve serviceId) h.resolver, h⟩
  | isHealthy key => exact ⟨congrArg (·.isHealthy key) h.healthStatus, h⟩
  | fetchAdd serviceId =>
      have hcounters := congrArg
        (fun counters => Counters.increment 64 counters serviceId) h.counters
      exact ⟨congrArg (fun counters => (counters.lookup serviceId).getD 0)
        h.counters, ⟨h.resolver, h.config, hcounters, h.healthStatus⟩⟩
  | randomHash len => exact ⟨congrFun hrandom len, h⟩
  | loadConfig => exact ⟨h.config, h⟩
  | recordFailure code =>
      exact ⟨rfl, ⟨h.resolver, h.config, h.counters, h.healthStatus⟩⟩
  | _ => cases hop

/-- The choice does not depend on the rest of the world and of the state. -/
theorem result_upstreamBaseOf {P : Platform} {world world' : World}
    (hrandom : world.randomHash = world'.randomHash) {s t : Serving}
    (h : SameChoice s t) (rule : CompiledRoutingRule) (path : String) :
    s.result P world (upstreamBaseOf rule path) =
      t.result P world' (upstreamBaseOf rule path) :=
  (Program.serve_alike (answer_sameChoice P hrandom)
    (upstreamBaseOf_selects rule path) h).2.1

/-! ## Requests with hop-by-hop headers inserted -/

section HopByHop

variable {P : Platform} {pairs : List (HeaderName × HeaderValue)}

/-- What is inserted under hop-by-hop names is not forwarded. -/
theorem forwardedHeaders_insertAll
    (hpairs : ∀ pair ∈ pairs, isHopByHop P pair.1.asStr = true)
    (headers : HeaderMap) (id : HeaderValue) :
    forwardedHeaders P (headers.insertAll pairs) id =
      forwardedHeaders P headers id := by
  apply MultiMap.ext
  rw [forwardedHeaders_pairs, forwardedHeaders_pairs]
  congr 1
  have hdropped (pair : HeaderName × HeaderValue) (h : pair ∈ pairs) :
      (!isHopByHop P pair.1.asStr) = false := by
    rw [hpairs pair h]
    rfl
  exact MultiMap.filter_insertAll (p := fun name : HeaderName =>
    !isHopByHop P name.asStr) hdropped headers

variable (hpairs : ∀ pair ∈ pairs, isHopByHop P pair.1.asStr = true)
include hpairs

theorem proxyHttp_withHeaders (req : Request) (u path : String)
    (extra : ExtraHeaders) (requestId : String) :
    proxyHttp P (req.withHeaders pairs) u path extra requestId =
      proxyHttp P req u path extra requestId := by
  obtain ⟨method, reqPath, query, headers, body⟩ := req
  unfold proxyHttp Request.withHeaders
  cases body with
  | error reason => rfl
  | ok body =>
      cases P.headerValue requestId with
      | none => rfl
      | some id =>
          dsimp only
          rw [forwardedHeaders_insertAll hpairs]
          refine congrArg _ (funext fun reply => ?_)
          cases reply <;> rfl

theorem attemptWithRetries_withHeaders (req : Request) (u path : String)
    (extra : ExtraHeaders) (requestId : String) (retries : Nat) :
    attemptWithRetries P (req.withHeaders pairs) u path extra requestId
        retries =
      attemptWithRetries P req u path extra requestId retries := by
  induction retries with
  | zero =>
      rw [attemptWithRetries, proxyHttp_withHeaders hpairs]
      rfl
  | succ retries ih =>
      rw [attemptWithRetries, proxyHttp_withHeaders hpairs, ih]
      rfl

theorem proxyWithRetry_withHeaders (req : Request) (u path : String)
    (extra : ExtraHeaders) (requestId : String) (maxRetries : Nat) :
    proxyWithRetry P (req.withHeaders pairs) u path extra requestId
        maxRetries =
      proxyWithRetry P req u path extra requestId maxRetries := by
  cases hbody : req.body with
  | ok bytes =>
      have hbody' : (req.withHeaders pairs).body = .ok bytes := hbody
      rw [proxyWithRetry_eq_attempts hbody, proxyWithRetry_eq_attempts hbody',
        attemptWithRetries_withHeaders hpairs]
  | error reason =>
      have hbody' : (req.withHeaders pairs).body = .error reason := hbody
      unfold proxyWithRetry
      rw [proxyHttp_withHeaders hpairs, hbody, hbody']

end HopByHop

/-! ## Responses with headers inserted -/

section Answers

variable {P : Platform} {req : Request} {rule : CompiledRoutingRule}

theorem attemptWithRetries_ok {u path requestId : String}
    {extra : ExtraHeaders} {retries : Nat} {log : List ServerExchange}
    {res : Response}
    (h : (attemptWithRetries P req u path extra requestId retries).Returns log
      (.ok res)) :
    ∃ upstream, res.headers = responseHeaders P upstream extra := by
  induction retries generalizing log with
  | zero =>
      obtain ⟨first, result, rest, -, hfirst, hrest⟩ :=
        Program.returns_bind.mp h
      obtain ⟨second, -, tail, -, -, hdone⟩ := Program.returns_bind.mp hrest
      cases (Program.returns_done.mp hdone).2
      obtain ⟨-, upstream, -, -, -, rfl⟩ := proxyHttp_returns_ok hfirst
      exact ⟨upstream.headers, rfl⟩
  | succ retries ih =>
      obtain ⟨first, result, rest, -, hfirst, hrest⟩ :=
        Program.returns_bind.mp h
      obtain ⟨second, -, tail, -, -, hrest⟩ := Program.returns_bind.mp hrest
      cases result with
      | error e => exact ih hrest
      | ok resp =>
          cases (Program.returns_done.mp hrest).2
          obtain ⟨-, upstream, -, -, -, rfl⟩ := proxyHttp_returns_ok hfirst
          exact ⟨upstream.headers, rfl⟩

theorem proxyWithRetry_ok {u path requestId : String} {extra : ExtraHeaders}
    {maxRetries : Nat} {log : List ServerExchange} {res : Response}
    (h : (proxyWithRetry P req u path extra requestId maxRetries).Returns log
      (.ok res)) :
    ∃ upstream, res.headers = responseHeaders P upstream extra := by
  unfold proxyWithRetry at h
  split at h
  · have hsingle : (attemptWithRetries P req u path extra requestId 0).Returns
        log (.ok res) := h
    exact attemptWithRetries_ok hsingle
  · split at h
    · cases (Program.returns_done.mp h).2
    · exact attemptWithRetries_ok h

/-- A value that the rule sets is in every answer. -/
theorem getAll_of_ownHeaders {u path requestId : String}
    {log : List ServerExchange} {res : Response}
    (h : (forward P req rule u path requestId).Returns log (.ok res))
    {name : HeaderName} {value : HeaderValue}
    (hown : (ownHeaders P req rule).getAll name = [value]) :
    res.headers.getAll name = [value] := by
  unfold forward at h
  unfold ownHeaders at hown
  cases hupgrade : isWebsocketUpgrade P req with
  | true =>
      rw [hupgrade, if_pos rfl] at h hown
      obtain ⟨reply, rest, -, hrest⟩ := returns_perform_bind.mp h
      cases reply with
      | error reason => cases (Program.returns_done.mp hrest).2
      | ok switched =>
          cases (Program.returns_done.mp hrest).2
          exact hown
  | false =>
      rw [hupgrade, if_neg Bool.false_ne_true] at h hown
      obtain ⟨config, rest, -, hrest⟩ := returns_perform_bind.mp h
      obtain ⟨upstream, hheaders⟩ := proxyWithRetry_ok hrest
      rw [hheaders, getAll_responseHeaders]
      rw [getAll_responseHeaders] at hown
      cases hvalue : ExtraHeaders.value? rule.responseHeaders name with
      | some set => rwa [hvalue] at hown
      | none => simp [hvalue] at hown

/-- The answers to a client, as far as it can tell them apart. -/
def SameAnswer (first second : Except ProxyError Response) : Prop :=
  (clientResponse first).SameFor (clientResponse second)

theorem SameAnswer.refl (answer : Except ProxyError Response) :
    SameAnswer answer answer :=
  ⟨rfl, fun _ => rfl, rfl⟩

/-- Inserted values that are there already, and those for the request id,
leave no trace. -/
theorem sameAnswer_echoRequestId {requestId : String}
    (hid : (P.headerValue requestId).isSome = true)
    {pairs : List (HeaderName × HeaderValue)} {res : Response}
    (hres : ∀ name ≠ xRequestId, ∀ value,
      ExtraHeaders.value? (some pairs) name = some value →
        res.headers.getAll name = [value]) :
    SameAnswer
      (.ok (echoRequestId P requestId
        { res with headers := res.headers.insertAll pairs }))
      (.ok (echoRequestId P requestId res)) := by
  obtain ⟨id, hvalue⟩ := Option.isSome_iff_exists.mp hid
  unfold SameAnswer echoRequestId
  rw [hvalue]
  refine ⟨rfl, fun name => ?_, rfl⟩
  show ((res.headers.insertAll pairs).insert xRequestId id).getAll name =
    (res.headers.insert xRequestId id).getAll name
  rw [MultiMap.getAll_insert, MultiMap.getAll_insert]
  split
  · rfl
  · next hname =>
      have hlast := hres name hname
      unfold ExtraHeaders.value? at hlast
      rw [MultiMap.getAll_insertAll]
      cases hget : ((⟨pairs⟩ : HeaderMap).getAll name).getLast? with
      | none => rfl
      | some value => exact (hlast value hget).symm

end Answers

/-! ## When nothing inserted is seen -/

section Sufficient

variable {P : Platform} {world : World} {chain : List BuiltinPlugin}
  {req : Request} {rule : CompiledRoutingRule} {requestId : String}

theorem forward_withHeaders (h : Unseen P chain rule req)
    (u path : String) :
    forward P (req.withHeaders (requestPairsOf P chain)) rule u path
        requestId =
      forward P req rule u path requestId := by
  unfold forward
  rw [h.upgrade]
  cases hupgrade : isWebsocketUpgrade P req with
  | true => rfl
  | false =>
      simp only [Bool.false_eq_true, if_false,
        proxyWithRetry_withHeaders (h.request hupgrade)]

/-- The two last steps answer alike what was forwarded. -/
theorem alike_finishWith (hid : (P.headerValue requestId).isSome = true)
    (h : Unseen P chain rule req) {u path : String}
    {log : List ServerExchange} {forwarded : Except ProxyError Response}
    (hreturns : (forward P req rule u path requestId).Returns log forwarded)
    (s : Serving) :
    Program.Outcome.Alike SameAnswer
      (Program.serve (Serving.answer P world) s
        (finishWith P (responsePairsOf P chain.reverse) requestId forwarded))
      (Program.serve (Serving.answer P world) s
        (finishWith P [] requestId forwarded)) := by
  cases forwarded with
  | error e => exact .rfl SameAnswer.refl _
  | ok res =>
      refine ⟨rfl, .some ?_⟩
      apply sameAnswer_echoRequestId hid
      intro name hname value hvalue
      exact getAll_of_ownHeaders hreturns (h.response name hname value hvalue)

theorem alike_routeBy (hid : (P.headerValue requestId).isSome = true)
    {path : String} {s : Serving}
    (h : ∀ base, Serving.result P world
        (s.answer P world (.recordRouteHit rule.id)).2
        (upstreamBaseOf rule path) = some (.ok base) →
      Unseen P chain rule req) :
    Program.Outcome.Alike SameAnswer
      (Program.serve (Serving.answer P world) s (routeBy P
        (finishWith P (responsePairsOf P chain.reverse) requestId) path
        (req.withHeaders (requestPairsOf P chain)) rule requestId))
      (Program.serve (Serving.answer P world) s (routeBy P
        (finishWith P [] requestId) path req rule requestId)) := by
  refine Program.alike_bind (I := ServerInterface) fun _ _ => ?_
  refine Program.alike_bind (I := ServerInterface) fun base hbase => ?_
  cases base with
  | error e => exact .rfl SameAnswer.refl _
  | ok base =>
      have hunseen := h base hbase
      refine Program.alike_bind (I := ServerInterface) fun allowed _ => ?_
      cases allowed with
      | false => exact .rfl SameAnswer.refl _
      | true =>
          dsimp only
          rw [forward_withHeaders hunseen]
          refine Program.alike_bind (I := ServerInterface)
            fun forwarded hforwarded => ?_
          exact alike_finishWith hid hunseen
            (Program.serve_returns hforwarded) _

theorem asksServer_of_ownAnswers {op : ServerOp}
    (h : ownAnswers P chain world.uuid op = none) : AsksServer op := by
  intro P' chain' uuid'
  cases op <;> first | rfl | cases h

/-- The plugins have answered; what is left does not ask them. -/
theorem serve_moved (P : Platform) (world : World) (state : AppState)
    (chain : List BuiltinPlugin) (req : Request) :
    AppState.serve P world { state with pluginChain := chain } req =
      seen (Program.serve (Serving.answer P world) ⟨state, 0⟩ (handleBy P
        (finishWith P (responsePairsOf P chain.reverse)
          (requestIdWith P world.uuid req))
        req (req.withHeaders (requestPairsOf P chain))
        (requestIdWith P world.uuid req))) := by
  have hasks : ((proxyHandler P (chain.map BuiltinPlugin.name) req).answering
      (ownAnswers P chain world.uuid)).OnlyAsks AsksServer :=
    (Program.onlyAsks_answering _).mono fun op => asksServer_of_ownAnswers
  have hsame : SameButPlugins ⟨{ state with pluginChain := chain }, 0⟩
      ⟨state, 0⟩ := ⟨rfl, rfl⟩
  have halike := Program.serve_alike (answer_sameButPlugins P world) hasks
    hsame
  rw [serve_eq_answering, AppState.handler, ← answering_proxyHandler]
  apply seen_eq_of_visible
  unfold Program.Outcome.visible
  rw [halike.1, halike.2.1]

theorem serve_bare {state : AppState} (hempty : state.pluginChain = [])
    (P : Platform) (world : World) (req : Request) :
    AppState.serve P world state req =
      seen (Program.serve (Serving.answer P world) ⟨state, 0⟩ (handleBy P
        (finishWith P [] (requestIdWith P world.uuid req)) req req
        (requestIdWith P world.uuid req))) := by
  have hstate : { state with pluginChain := [] } = state := by rw [← hempty]
  have hmoved := serve_moved P world state [] req
  rw [hstate] at hmoved
  exact hmoved

theorem seen_alike {first second : Program.Outcome ServerInterface Serving
      (Except ProxyError Response)} (h : first.Alike SameAnswer second) :
    (seen first).1 = (seen second).1 ∧
      Option.Rel Response.SameFor (seen first).2 (seen second).2 := by
  obtain ⟨hlog, hresult⟩ := h
  unfold seen
  rw [hlog]
  refine ⟨rfl, ?_⟩
  generalize first.result = result at hresult
  generalize second.result = result' at hresult
  cases hresult with
  | none => exact .none
  | some hsame => exact .some hsame

/-- Without visible injections the plugin chain makes no difference. -/
theorem sameAnswers_of_unseen (htexts : P.TextsValid) {uuid : String}
    (huuid : (P.headerValue uuid).isSome = true) {ephemeral : AppState}
    (hempty : ephemeral.pluginChain = [])
    (hroutes : RoutesKept P ephemeral.router chain)
    (hunseen : InjectsUnseen P ephemeral chain) :
    SameAnswers P uuid { ephemeral with pluginChain := chain } ephemeral := by
  rintro world rfl req
  rw [serve_moved, serve_bare hempty]
  apply seen_alike
  refine Program.alike_bind (I := ServerInterface) fun router hrouter => ?_
  obtain rfl : ephemeral.router = router := Option.some.inj hrouter
  rw [hroutes req]
  cases hrule : ephemeral.router.resolvedRule P req.path req.method
      req.headers with
  | none => exact .rfl SameAnswer.refl _
  | some rule =>
      apply alike_routeBy (isSome_requestIdWith htexts huuid req)
      intro base hbase
      refine hunseen req rule hrule ⟨world, base, ?_⟩
      rw [← hbase]
      refine result_upstreamBaseOf rfl ?_ rule req.path
      exact ⟨rfl, rfl, rfl, rfl⟩

end Sufficient

end ServiceRouter
