import ServiceRouter.Proxy.HttpProxy
import ServiceRouter.Proxy.WsProxy
import ServiceRouter.Server.Metrics

/-!
# The proxy handler

Every request runs through the plugins, the router, the choice of an upstream,
the circuit breaker and one of the two forwarding branches.  Panics abort the
program.
-/

namespace ServiceRouter

open Foundation

/-! ## Plugins -/

/-- Run `on_request` of the plugins, given with their places in the chain. -/
def runOnRequest : List (String × Nat) → Request →
    ServerProgram (Except String RequestAction)
  | [], req => return .ok (.continue_ req)
  | (name, position) :: rest, req => do
      let outcome ← perform (.onRequest position req)
      match outcome with
      | .ok (.continue_ r) => runOnRequest rest r
      | .ok (.respond resp) => return .ok (.respond resp)
      | .error e => return .error e
      | .panicked => return .error s!"plugin '{name}' panicked in on_request"

def runOnResponse : List (String × Nat) → Response →
    ServerProgram (Except String Response)
  | [], resp => return .ok resp
  | (name, position) :: rest, resp => do
      let outcome ← perform (.onResponse position resp)
      match outcome with
      | .ok r => runOnResponse rest r
      | .error e => return .error e
      | .panicked => return .error s!"plugin '{name}' panicked in on_response"

/-! ## Choosing an instance -/

def healthyInstances : List ServiceInstance →
    ServerProgram (List ServiceInstance)
  | [] => return []
  | inst :: rest => do
      let healthy : Bool ← perform (.isHealthy inst.hostPort)
      let others ← healthyInstances rest
      return if healthy then inst :: others else others

def indexOrPanic (instances : List ServiceInstance) (idx : Nat) :
    ServerProgram ServiceInstance :=
  match instances[idx]? with
  | some inst => return inst
  | none => .abort "index out of bounds"

def remOrPanic (n m : Nat) : ServerProgram Nat :=
  if m = 0 then .abort "remainder with a divisor of zero" else return n % m

def totalWeight (weights : List Nat) : Nat :=
  weights.foldl (fun total w => (total + w) % 2 ^ 64) 0

def firstAbove (c cum : Nat) : List Nat → Option Nat
  | [] => none
  | w :: weights =>
      let cum := (cum + w) % 2 ^ 64
      if c < cum then some 0 else (firstAbove c cum weights).map (· + 1)

def randIndex (len : Nat) : ServerProgram Nat := do
  let hash ← perform (.randomHash len)
  remOrPanic hash len

def weightedRoundRobinPick (instances : List ServiceInstance)
    (svcId : String) : ServerProgram ServiceInstance := do
  let weights := instances.map ServiceInstance.weight
  let c ← perform (.fetchAdd svcId)
  let idx ← remOrPanic c (totalWeight weights)
  match firstAbove idx 0 weights with
  | some i => indexOrPanic instances i
  | none =>
      match instances.getLast? with
      | some inst => return inst
      | none => .abort "non-empty instances"

def healthyIndex (healthy : List ServiceInstance) (svcId : String) :
    InstanceSelection → ServerProgram Nat
  | .first => return 0
  | .roundRobin => do
      let c ← perform (.fetchAdd svcId)
      remOrPanic c healthy.length
  | .random => randIndex healthy.length
  | .weightedRoundRobin => do
      let weights := healthy.map ServiceInstance.weight
      let c ← perform (.fetchAdd svcId)
      let c ← remOrPanic c (totalWeight weights)
      return (firstAbove c 0 weights).getD (healthy.length - 1)

def selectServiceInstance (instances : List ServiceInstance)
    (svcId : String) (selection : InstanceSelection) :
    ServerProgram ServiceInstance := do
  let healthy ← healthyInstances instances
  if !healthy.isEmpty && healthy.length < instances.length then
    let idx ← healthyIndex healthy svcId selection
    indexOrPanic healthy idx
  else
    -- All healthy or all unhealthy: the full list is used.
    match selection with
    | .first => indexOrPanic instances 0
    | .roundRobin => do
        let c ← perform (.fetchAdd svcId)
        let idx ← remOrPanic c instances.length
        indexOrPanic instances idx
    | .random => do
        let idx ← randIndex instances.length
        indexOrPanic instances idx
    | .weightedRoundRobin => weightedRoundRobinPick instances svcId

/-- The base URL of the upstream; failures are counted before they return. -/
def upstreamBaseOf (rule : CompiledRoutingRule) (path : String) :
    ServerProgram (Except ProxyError String) :=
  match rule.upstreamUrl, rule.serviceId with
  | some url, _ => return .ok url
  | none, some svcId => do
      let resolved ← perform (.resolve svcId)
      match resolved with
      | .error e => do
          perform (.recordFailure (failureCodeForRegistry e))
          return .error (.registry e)
      | .ok instances =>
          if instances.isEmpty then do
            perform (.recordFailure "no_instances")
            return .error (.noInstances svcId)
          else do
            let config ← perform .loadConfig
            let inst ← selectServiceInstance instances svcId
              config.server.instanceSelection
            return .ok inst.baseUrl
  | none, none => do
      perform (.recordFailure "no_instances")
      return .error (.noInstances path)

/-! ## Forwarding with retries -/

def reportOutcome (upstreamBase : String)
    (result : Except ProxyError Response) : ServerProgram Unit :=
  match result with
  | .ok _ => perform (.breakerRecordSuccess upstreamBase)
  | .error _ => perform (.breakerRecordFailure upstreamBase)

/-- One attempt and `retries` more while they fail. -/
def attemptWithRetries (P : Platform) (req : Request)
    (upstreamBase rewrittenPath : String) (extra : ExtraHeaders)
    (requestId : String) :
    Nat → ServerProgram (Except ProxyError Response)
  | 0 => do
      let result ← proxyHttp P req upstreamBase rewrittenPath extra requestId
      reportOutcome upstreamBase result
      return result
  | retries + 1 => do
      let result ← proxyHttp P req upstreamBase rewrittenPath extra requestId
      reportOutcome upstreamBase result
      match result with
      | .ok resp => return .ok resp
      | .error _ =>
          attemptWithRetries P req upstreamBase rewrittenPath extra requestId
            retries

def proxyWithRetry (P : Platform) (req : Request)
    (upstreamBase rewrittenPath : String) (extra : ExtraHeaders)
    (requestId : String) (maxRetries : Nat) :
    ServerProgram (Except ProxyError Response) :=
  if maxRetries = 0 then do
    let result ← proxyHttp P req upstreamBase rewrittenPath extra requestId
    reportOutcome upstreamBase result
    return result
  else
    match req.body with
    | .error reason => return .error (.bodyRead reason)
    | .ok bytes =>
        let headers := req.headers.pairs.foldl (fun headers entry =>
          headers.append entry.1 entry.2) MultiMap.empty
        let rebuilt := { req with headers := headers, body := .ok bytes }
        attemptWithRetries P rebuilt upstreamBase rewrittenPath extra requestId
          maxRetries

/-! ## The handler -/

/-- An inbound request id is reused, otherwise one is generated. -/
def requestIdOf (P : Platform) (req : Request) : ServerProgram String :=
  match (req.headers.get? xRequestId).bind P.headerText with
  | some id => return id
  | none => perform .newUuid

def isWebsocketUpgrade (P : Platform) (req : Request) : Bool :=
  match (req.headers.get? upgradeHeader).bind P.headerText with
  | some text => eqIgnoreAsciiCase text "websocket"
  | none => false

def forward (P : Platform) (req : Request) (rule : CompiledRoutingRule)
    (upstreamBase rewrittenPath requestId : String) :
    ServerProgram (Except ProxyError Response) :=
  if isWebsocketUpgrade P req then
    proxyWebsocket req upstreamBase rewrittenPath
  else do
    let config ← perform .loadConfig
    proxyWithRetry P req upstreamBase rewrittenPath rule.responseHeaders
      requestId config.server.maxRetries

/-- The request-id is echoed back to the caller. -/
def echoRequestId (P : Platform) (requestId : String) (res : Response) :
    Response :=
  match P.headerValue requestId with
  | some value => { res with headers := res.headers.insert xRequestId value }
  | none => res

def finishForwarded (P : Platform) (plugins : List String)
    (requestId : String) (forwarded : Except ProxyError Response) :
    ServerProgram (Except ProxyError Response) :=
  match forwarded with
  | .error e => do
      perform (.recordFailure (failureCodeForProxy e))
      return .error e
  | .ok res => do
      let answered ← runOnResponse plugins.zipIdx.reverse res
      match answered with
      | .error e => return .error (.pluginError e)
      | .ok res => return .ok (echoRequestId P requestId res)

def forwardAdmitted (P : Platform) (plugins : List String) (req : Request)
    (rule : CompiledRoutingRule)
    (upstreamBase rewrittenPath requestId : String) :
    ServerProgram (Except ProxyError Response) := do
  let forwarded ← forward P req rule upstreamBase rewrittenPath requestId
  finishForwarded P plugins requestId forwarded

def handleRouted (P : Platform) (plugins : List String) (path : String)
    (req : Request) (rule : CompiledRoutingRule) (requestId : String) :
    ServerProgram (Except ProxyError Response) := do
  perform (.recordRouteHit rule.id)
  let base ← upstreamBaseOf rule path
  match base with
  | .error e => return .error e
  | .ok upstreamBase => do
      let rewrittenPath := rule.rewritePath path
      let allowed ← perform (.breakerAllow upstreamBase)
      match allowed with
      | false => do
          perform (.recordFailure "circuit_breaker_open")
          return .error (.upstreamConnection
            s!"circuit breaker open for {upstreamBase}")
      | true =>
          forwardAdmitted P plugins req rule upstreamBase rewrittenPath
            requestId

/-- The path and the method are those of the request before the plugins ran,
the headers those after. -/
def proxyHandler (P : Platform) (plugins : List String) (req : Request) :
    ServerProgram (Except ProxyError Response) := do
  let path := req.path
  let method := req.method
  let requestId ← requestIdOf P req
  let action ← runOnRequest plugins.zipIdx req
  match action with
  | .error e => return .error (.pluginError e)
  | .ok (.respond resp) => return .ok resp
  | .ok (.continue_ req) => do
      let router ← perform .loadRouter
      match RouterSnapshot.resolvedRule P router path method req.headers with
      | none => do
          perform (.recordFailure "no_matching_route")
          return .error (.noInstances path)
      | some rule => handleRouted P plugins path req rule requestId

end ServiceRouter
