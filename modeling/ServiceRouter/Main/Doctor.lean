import ServiceRouter.Config.Loader
import ServiceRouter.Config.Serialize
import ServiceRouter.Server.AppState
import ServiceRouter.Server.Metrics

/-!
# The doctor

`doctor` checks the configuration, the listen address and the registries, and
with `--probe-upstream` also whether the registries and the targets of the
routes accept connections.  What the registries report, what services resolve
to and which addresses accept connections are parameters.
-/

namespace ServiceRouter

open Foundation

/-! ## Registry health -/

inductive RegistryHealth where
  | healthy
  | degraded (message : String)
  | unhealthy (message : String)
  deriving DecidableEq

def RegistryHealth.isUnhealthy : RegistryHealth → Bool
  | .unhealthy _ => true
  | _ => false

def registryHealthJsonRow (priority : Nat) (kind : String) :
    RegistryHealth → Value
  | .healthy => .mkObject [
      ("priority", .ofNat priority),
      ("kind", .string kind),
      ("status", .string "healthy")]
  | .degraded message => .mkObject [
      ("priority", .ofNat priority),
      ("kind", .string kind),
      ("status", .string "degraded"),
      ("message", .string message)]
  | .unhealthy message => .mkObject [
      ("priority", .ofNat priority),
      ("kind", .string kind),
      ("status", .string "unhealthy"),
      ("message", .string message)]

/-! ## The outside -/

/-- The part of `reqwest::Url` that a probe uses. -/
structure ProbedUrl where
  hostStr : Option String
  portOrKnownDefault : Option Nat

structure DoctorResolver where
  healthReport : List (Nat × String × RegistryHealth)
  resolve : String → Except RegistryError (List ServiceInstance)

def MultiRegistryResolver.forDoctor (resolver : MultiRegistryResolver)
    (healthReport : List (Nat × String × RegistryHealth)) :
    DoctorResolver where
  healthReport := healthReport
  resolve := resolver.resolve

structure DoctorHost where
  configExists : Bool
  /-- The configuration, or the text of the error. -/
  loadConfig : Except String AppConfig
  /-- Listen at an address, or the text of the error. -/
  bind : String → Except String Unit
  buildResolver : AppConfig → Except RegistryError DoctorResolver
  urlParse : String → Except String ProbedUrl
  /-- A text in quotes, as `{:?}` prints it. -/
  debug : String → String
  /-- Whether a connection to an address is made in time. -/
  connects : String → Bool

section Targets

variable (host : DoctorHost)

def probeTcp (targetHost : String) (port : Nat) : Bool :=
  host.connects s!"{targetHost}:{port}"

def parseHostPortFromUrl (url : String) : Except String (String × Nat) :=
  match host.urlParse url with
  | .error e => .error s!"invalid URL '{url}': {e}"
  | .ok parsed =>
      match parsed.hostStr with
      | none => .error s!"missing host in URL '{url}'"
      | some targetHost =>
          match parsed.portOrKnownDefault with
          | none => .error s!"missing port and scheme default for '{url}'"
          | some port => .ok (targetHost, port)

/-- Host and port of a URL with scheme, or of `host:port`. -/
def parseHostPortForProbe (addrOrUrl : String) :
    Except String (String × Nat) :=
  let t := trim addrOrUrl
  if containsText t "://" then parseHostPortFromUrl host t
  else
    match rsplitOnce t ':' with
    | none => .error s!"expected host:port, got {host.debug t}"
    | some (front, back) =>
        let targetHost := trim front
        if targetHost.isEmpty then .error s!"empty host in {host.debug t}"
        else
          match parseU16 back with
          | none => .error (s!"invalid port in {host.debug t}: " ++
              parseU16Error back)
          | some port => .ok (targetHost, port)

end Targets

/-! ## The checks -/

/-- The variables of the command, and the lines that it prints without
`--json`. -/
structure DoctorState where
  hasUnhealthy : Bool := false
  probeFailures : Nat := 0
  registryHealth : List Value := []
  registryEndpointProbe : List Value := []
  upstreamProbe : List Value := []
  lines : List String := []

def DoctorState.say (state : DoctorState) (line : String) : DoctorState :=
  { state with lines := state.lines ++ [line] }

def healthLine (priority : Nat) (kind : String) : RegistryHealth → String
  | .healthy => s!"   - [{priority}] {kind}: healthy"
  | .degraded message => s!"   - [{priority}] {kind}: degraded ({message})"
  | .unhealthy message => s!"   - [{priority}] {kind}: unhealthy ({message})"

def reportHealth (state : DoctorState) :
    Nat × String × RegistryHealth → DoctorState
  | (priority, kind, health) =>
      { state with
        hasUnhealthy := state.hasUnhealthy || health.isUnhealthy
        registryHealth := state.registryHealth ++
          [registryHealthJsonRow priority kind health]
        lines := state.lines ++ [healthLine priority kind health] }

def reportRegistries (report : List (Nat × String × RegistryHealth))
    (state : DoctorState) : DoctorState :=
  if report.isEmpty
  then state.say " - registry health: SKIP (no registry configured)"
  else report.foldl reportHealth (state.say " - registry health:")

/-- Kind, priority and configured address of a registry behind a network. -/
def RegistryConfig.endpoint : RegistryConfig → Option (String × Nat × String)
  | .nacos c => some ("Nacos", c.priority, c.serverAddr)
  | .eureka c => some ("Eureka", c.priority, c.serverUrl)
  | .kubernetes c => some ("Kubernetes", c.priority, c.apiServerUrl)
  | .mock _ => none

/-- One probe: the row it adds, the line it prints, and whether it failed. -/
def DoctorState.addEndpoint (state : DoctorState) (failed : Bool) (row : Value)
    (line : String) : DoctorState :=
  { state with
    probeFailures := state.probeFailures + if failed then 1 else 0
    registryEndpointProbe := state.registryEndpointProbe ++ [row]
    lines := state.lines ++ [line] }

def DoctorState.addUpstream (state : DoctorState) (failed : Bool) (row : Value)
    (lines : List String) : DoctorState :=
  { state with
    probeFailures := state.probeFailures + if failed then 1 else 0
    upstreamProbe := state.upstreamProbe ++ [row]
    lines := state.lines ++ lines }

section Checks

variable (host : DoctorHost)

def probeEndpoint (state : DoctorState) (src : RegistryConfig) : DoctorState :=
  match src.endpoint with
  | none => state
  | some (kind, priority, configured) =>
      match parseHostPortForProbe host configured with
      | .ok (targetHost, port) =>
          let reachable := probeTcp host targetHost port
          let entry := [
            ("kind", .string kind),
            ("priority", .ofNat priority),
            ("configured", .string configured),
            ("host", .string targetHost),
            ("port", .ofNat port),
            ("reachable", .bool reachable)]
          if reachable
          then state.addEndpoint false (.mkObject entry)
            (s!"   - [{priority}] {kind} {configured} " ++
              s!"({targetHost}:{port}): reachable")
          else state.addEndpoint true (.mkObject (entry ++ [
              ("failure_code", .string "TCP_UNREACHABLE"),
              ("reason", .string (s!"TCP connect to {targetHost}:{port} " ++
                "failed or timed out (2s)"))]))
            (s!"   - [{priority}] {kind} {configured} " ++
              s!"({targetHost}:{port}): unreachable (TCP_UNREACHABLE)")
      | .error e =>
          state.addEndpoint true (.mkObject [
              ("kind", .string kind),
              ("priority", .ofNat priority),
              ("reachable", .bool false),
              ("failure_code", .string "ENDPOINT_PARSE_ERROR"),
              ("reason", .string e)])
            (s!"   - [{priority}] {kind} endpoint parse failed: {e} " ++
              "(ENDPOINT_PARSE_ERROR)")

def probeEndpoints (sources : List RegistryConfig) (state : DoctorState) :
    DoctorState :=
  if sources.any fun src => src.endpoint.isSome
  then sources.foldl (probeEndpoint host)
    (state.say " - registry endpoint probe:")
  else state.say " - registry endpoint probe: SKIP (mock registry only)"

def probeUpstreamUrl (state : DoctorState) (routeId url : String) :
    DoctorState :=
  match parseHostPortFromUrl host url with
  | .ok (targetHost, port) =>
      let reachable := probeTcp host targetHost port
      let entry := [
        ("route_id", .string routeId),
        ("target_type", .string "upstream_url"),
        ("host", .string targetHost),
        ("port", .ofNat port),
        ("reachable", .bool reachable)]
      if reachable
      then state.addUpstream false (.mkObject entry)
        [s!"   - route {routeId} direct {targetHost}:{port} reachable"]
      else state.addUpstream true
        (.mkObject (entry ++ [("failure_code", .string "TCP_UNREACHABLE")]))
        [s!"   - route {routeId} direct {targetHost}:{port} unreachable"]
  | .error e =>
      state.addUpstream true (.mkObject [
          ("route_id", .string routeId),
          ("target_type", .string "upstream_url"),
          ("reachable", .bool false),
          ("failure_code", .string "ENDPOINT_PARSE_ERROR"),
          ("error", .string e)])
        [s!"   - route {routeId} direct URL parse failed: {e}"]

def serviceEntry (routeId serviceId : String) (rest : List (String × Value)) :
    Value :=
  .mkObject ([
    ("route_id", .string routeId),
    ("target_type", .string "service_id"),
    ("service_id", .string serviceId)] ++ rest)

/-- Only the first three instances are probed, up to one that answers. -/
def probeServiceId (state : DoctorState) (routeId serviceId : String) :
    Except RegistryError (List ServiceInstance) → DoctorState
  | .ok [] =>
      state.addUpstream true (serviceEntry routeId serviceId [
          ("reachable", .bool false),
          ("failure_code", .string "no_instances"),
          ("error", .string "resolved 0 instances")])
        [s!"   - route {routeId} service {serviceId} resolved 0 instances"]
  | .ok instances =>
      let entry := fun (okAny : Bool) => [
        ("resolved_instances", .ofNat instances.length),
        ("reachable", .bool okAny)]
      match (instances.take 3).find? fun inst =>
        probeTcp host inst.host inst.port with
      | some inst =>
          state.addUpstream false
            (serviceEntry routeId serviceId (entry true))
            [s!"   - route {routeId} service {serviceId} instance " ++
              s!"{inst.host}:{inst.port} reachable"]
      | none =>
          state.addUpstream true
            (serviceEntry routeId serviceId (entry false ++
              [("failure_code", .string "TCP_UNREACHABLE")]))
            [s!"   - route {routeId} service {serviceId} " ++
              "unresolved reachable instances"]
  | .error e =>
      state.addUpstream true (serviceEntry routeId serviceId [
          ("reachable", .bool false),
          ("failure_code", .string (failureCodeForRegistry e)),
          ("error", .string e.display)])
        [s!"   - route {routeId} service {serviceId} resolve failed: " ++
          e.display]

def probeRoute (resolver : DoctorResolver) (state : DoctorState)
    (route : RoutingRule) : DoctorState :=
  match route.upstreamUrl, route.serviceId with
  | some url, _ => probeUpstreamUrl host state route.id url
  | none, some serviceId =>
      probeServiceId host state route.id serviceId (resolver.resolve serviceId)
  | none, none => state

def probeResult (state : DoctorState) : DoctorState :=
  if state.probeFailures > 0
  then { state.say (s!" - network probe result: FAIL " ++
      s!"({state.probeFailures} issue(s); registry endpoints + route " ++
      "upstreams)") with hasUnhealthy := true }
  else state.say " - network probe result: PASS"

/-- The probes of `--probe-upstream`. -/
def probeNetwork (config : AppConfig) (resolver : DoctorResolver)
    (state : DoctorState) : DoctorState :=
  let endpoints := probeEndpoints host config.registries.sources state
  probeResult (config.routes.foldl (probeRoute host resolver)
    (endpoints.say " - upstream probe:"))

end Checks

/-! ## The command -/

inductive DoctorOutput where
  | json (report : Value)
  | text (lines : List String)

structure DoctorResult where
  output : DoctorOutput
  exitCode : Nat

/-- What the first checks have printed before one of them failed, with the
error that `--json` reports. -/
structure CheckFailure where
  lines : List String
  error : String

def initialChecks (host : DoctorHost) (configPath : PathBuf) :
    Except CheckFailure (AppConfig × DoctorResolver × List String) :=
  let header := s!"Doctor checks for {configPath.display}"
  if !host.configExists
  then .error {
    lines := [header, " - config file: FAIL (not found)"]
    error := "config file not found" }
  else
    let found := [header, " - config file: OK"]
    match host.loadConfig with
    | .error e => .error {
        lines := found ++ [s!" - config parse: FAIL ({e})"]
        error := s!"config parse failed: {e}" }
    | .ok config =>
        let parsed := found ++ [" - config parse: OK"]
        let addr := s!"{config.server.host}:{config.server.port}"
        match host.bind addr with
        | .error e => .error {
            lines := parsed ++
              [s!" - listen addr: FAIL ({addr} unavailable: {e})"]
            error := s!"listen addr unavailable: {e}" }
        | .ok () =>
            let bound := parsed ++ [s!" - listen addr: OK ({addr})"]
            match host.buildResolver config with
            | .error e => .error {
                lines := bound ++ [
                  s!" - registry init: FAIL ({e.display})",
                  "Doctor result: FAIL"]
                error := s!"registry init failed: {e.display}" }
            | .ok resolver =>
                .ok (config, resolver, bound ++ [" - registry init: OK"])

def checkFailureJson (configPath : PathBuf) (error : String) : Value :=
  .mkObject [
    ("diagnostic_version", .string "1.0"),
    ("status", .string "fail"),
    ("config_path", .string configPath.display),
    ("error", .string error)]

def DoctorState.toJson (state : DoctorState) (configPath : PathBuf)
    (probeUpstream : Bool) : Value :=
  .mkObject [
    ("diagnostic_version", .string "1.0"),
    ("status", .string (if state.hasUnhealthy then "fail" else "pass")),
    ("config_path", .string configPath.display),
    ("probe_upstream_enabled", .bool probeUpstream),
    ("registry_health", .array state.registryHealth),
    ("registry_endpoint_probe", .array state.registryEndpointProbe),
    ("upstream_probe", .array state.upstreamProbe)]

def DoctorState.toLines (state : DoctorState) : List String :=
  state.lines ++ [if state.hasUnhealthy
    then "Doctor result: FAIL" else "Doctor result: PASS"]

def doctor (host : DoctorHost) (configPath : PathBuf)
    (probeUpstream asJson : Bool) : DoctorResult :=
  match initialChecks host configPath with
  | .error failure => {
      output :=
        if asJson then .json (checkFailureJson configPath failure.error)
        else .text failure.lines
      exitCode := 1 }
  | .ok (config, resolver, lines) =>
      let reported :=
        reportRegistries resolver.healthReport { lines := lines }
      let state :=
        if probeUpstream then probeNetwork host config resolver reported
        else reported
      { output :=
          if asJson then .json (state.toJson configPath probeUpstream)
          else .text state.toLines
        exitCode := if state.hasUnhealthy then 1 else 0 }

end ServiceRouter
