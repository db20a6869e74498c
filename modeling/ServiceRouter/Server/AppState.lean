import ServiceRouter.Registry.Factory
import ServiceRouter.Server.BuiltinPlugins
import ServiceRouter.Server.CircuitBreaker
import ServiceRouter.Server.HealthChecker

/-!
# The state of a server

What requests share, and how it answers the questions of the handler while one
request is served.  Random numbers, the clock and the upstreams belong to the
world outside.
-/

namespace ServiceRouter

open Foundation

/-! ## Responses to the client -/

def RegistryError.display : RegistryError → String
  | .http reason => s!"HTTP error communicating with registry: {reason}"
  | .unexpectedResponse reason =>
      s!"Registry returned unexpected response: {reason}"
  | .serviceNotFound service => s!"Service not found in registry: {service}"
  | .authFailed => "Registry authentication failed"
  | .allFailed service =>
      s!"All registries failed to resolve service '{service}'"

def ProxyError.display : ProxyError → String
  | .noInstances service =>
      s!"No healthy instances found for service: {service}"
  | .upstreamConnection reason => s!"Upstream connection error: {reason}"
  | .registry error => s!"Registry error: {error.display}"
  | .wsUpgrade reason => s!"WebSocket upgrade error: {reason}"
  | .bodyRead reason => s!"Request body read error: {reason}"
  | .pluginError reason => s!"Plugin error: {reason}"

def ProxyError.status : ProxyError → Nat
  | .noInstances _ => 503
  | .registry (.serviceNotFound _) => 404
  | _ => 502

def contentTypeHeader : HeaderName := ⟨"content-type", by decide⟩

def ProxyError.intoResponse (e : ProxyError) : Response where
  status := e.status
  headers := ⟨[(contentTypeHeader, .fromStatic "text/plain; charset=utf-8")]⟩
  body := e.display.toUTF8.toList

def clientResponse : Except ProxyError Response → Response
  | .ok resp => resp
  | .error e => e.intoResponse

/-! ## The shared state -/

structure AppState where
  router : RouterSnapshot
  resolver : MultiRegistryResolver
  config : AppConfig
  httpClient : HttpClient
  metrics : ProxyMetrics
  instanceRrCounters : HashMap String Nat
  circuitBreaker : CircuitBreakerMap
  pluginChain : List BuiltinPlugin
  healthStatus : HealthStatus

def AppState.new (router : RouterSnapshot) (resolver : MultiRegistryResolver)
    (config : AppConfig) (upstreamTimeoutSecs : Nat)
    (metrics : ProxyMetrics) : AppState where
  router := router
  resolver := resolver
  config := config
  httpClient := ⟨upstreamTimeoutSecs⟩
  metrics := metrics
  instanceRrCounters := ∅
  circuitBreaker := .new config.server.circuitBreakerThreshold
    config.server.circuitBreakerRecoverySecs
  pluginChain := []
  healthStatus := .new

/-! ## Serving one request -/

/-- The clock and the upstreams may depend on how many upstreams were contacted
before. -/
structure World where
  uuid : String
  randomHash : Nat → Nat
  clock : Nat → Nat
  upstream : Nat → HttpClient → UpstreamRequest →
    Except String UpstreamResponse
  websocket : Nat → String → Except String Unit

structure Serving where
  state : AppState
  contacts : Nat

def Serving.answer (P : Platform) (world : World) (s : Serving) :
    (op : ServerOp) → op.Reply × Serving
  | .onRequest position req =>
      (onRequestAt P s.state.pluginChain position req, s)
  | .onResponse position resp =>
      (onResponseAt P s.state.pluginChain position resp, s)
  | .newUuid => (world.uuid, s)
  | .loadRouter => (s.state.router, s)
  | .loadConfig => (s.state.config, s)
  | .resolve serviceId => (s.state.resolver.resolve serviceId, s)
  | .isHealthy key => (s.state.healthStatus.isHealthy key, s)
  | .fetchAdd serviceId =>
      ((s.state.instanceRrCounters.lookup serviceId).getD 0,
        { s with state := { s.state with
          instanceRrCounters := Counters.increment 64
            s.state.instanceRrCounters serviceId } })
  | .randomHash len => (world.randomHash len, s)
  | .breakerAllow upstream =>
      let answer := s.state.circuitBreaker.allow (world.clock s.contacts)
        upstream
      (answer.1, { s with state := { s.state with
        circuitBreaker := answer.2 } })
  | .breakerRecordSuccess upstream =>
      ((), { s with state := { s.state with
        circuitBreaker := s.state.circuitBreaker.recordSuccess upstream } })
  | .breakerRecordFailure upstream =>
      ((), { s with state := { s.state with
        circuitBreaker := s.state.circuitBreaker.recordFailure
          (world.clock s.contacts) upstream } })
  | .recordRouteHit ruleId =>
      ((), { s with state := { s.state with
        metrics := s.state.metrics.recordRouteHit ruleId } })
  | .recordFailure reasonCode =>
      ((), { s with state := { s.state with
        metrics := s.state.metrics.recordFailure reasonCode } })
  | .send req =>
      (world.upstream s.contacts s.state.httpClient req,
        { s with contacts := s.contacts + 1 })
  | .connectWebsocket url =>
      (world.websocket s.contacts url, { s with contacts := s.contacts + 1 })

/-- The operations that reach an upstream. -/
def ServerOp.isContact : ServerOp → Bool
  | .send _ => true
  | .connectWebsocket _ => true
  | _ => false

def AppState.handler (P : Platform) (state : AppState) (req : Request) :
    ServerProgram (Except ProxyError Response) :=
  proxyHandler P (state.pluginChain.map BuiltinPlugin.name) req

/-- The exchanges with upstreams and the response; none after a panic. -/
def seen (outcome : Program.Outcome ServerInterface Serving
    (Except ProxyError Response)) : List ServerExchange × Option Response :=
  (outcome.log.filter fun exchange => ServerOp.isContact exchange.op,
    outcome.result.map clientResponse)

def AppState.serve (P : Platform) (world : World) (state : AppState)
    (req : Request) : List ServerExchange × Option Response :=
  seen (Program.serve (Serving.answer P world) ⟨state, 0⟩
    (state.handler P req))

/-! ## States that differ in their plugins -/

/-- The states differ at most in the plugin chain. -/
def SameButPlugins (s t : Serving) : Prop :=
  s.contacts = t.contacts ∧
    s.state = { t.state with pluginChain := s.state.pluginChain }

def AsksServer (op : ServerOp) : Prop :=
  ∀ P chain uuid, ownAnswers P chain uuid op = none

theorem answer_sameButPlugins (P : Platform) (world : World) :
    Program.AnswersAlike (I := ServerInterface) (Serving.answer P world)
      (Serving.answer P world) SameButPlugins AsksServer := by
  rintro ⟨state, contacts⟩ ⟨state', contacts'⟩ op ⟨hcontacts, hstate⟩ hop
  simp only at hcontacts hstate
  subst hcontacts
  rw [hstate]
  cases op with
  | onRequest position req => cases hop P [] ""
  | onResponse position resp => cases hop P [] ""
  | newUuid => cases hop P [] ""
  | _ => exact ⟨rfl, rfl, rfl⟩

theorem pluginChain_answer (P : Platform) (world : World) (s : Serving)
    (op : ServerOp) :
    (s.answer P world op).2.state.pluginChain = s.state.pluginChain := by
  cases op <;> rfl

theorem seen_eq_of_visible {first second : Program.Outcome ServerInterface
    Serving (Except ProxyError Response)}
    (h : first.visible ServerOp.isContact =
      second.visible ServerOp.isContact) : seen first = seen second := by
  unfold Program.Outcome.visible at h
  rw [Prod.mk.injEq] at h
  rw [seen, seen, h.2]
  exact Prod.ext h.1 rfl

/-- The plugins and the id generator may answer beforehand. -/
theorem serve_eq_answering (P : Platform) (world : World) (state : AppState)
    (req : Request) :
    state.serve P world req =
      seen (Program.serve (Serving.answer P world) ⟨state, 0⟩
        ((state.handler P req).answering
          (ownAnswers P state.pluginChain world.uuid))) := by
  apply seen_eq_of_visible
  refine Program.serve_answering
    (fun s : Serving => s.state.pluginChain = state.pluginChain)
    (state.handler P req) ⟨state, 0⟩ ?_ ?_ ?_ rfl
  · intro s op hs
    exact (pluginChain_answer P world s op).trans hs
  · intro s hs op reply hknown
    cases op with
    | onRequest position req =>
        cases hknown
        rw [← hs]
        rfl
    | onResponse position resp =>
        cases hknown
        rw [← hs]
        rfl
    | newUuid =>
        cases hknown
        rfl
    | _ => cases hknown
  · intro op reply hknown
    cases op <;> first | rfl | cases hknown

end ServiceRouter
