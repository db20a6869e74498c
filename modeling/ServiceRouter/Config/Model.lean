import Mathlib.Data.List.Forall2
import ServiceRouter.Foundation.HashMap
import ServiceRouter.Foundation.Json

/-!
# Application configuration

The configuration as it is loaded from YAML, with the default values of the
source, and the overlay of `--local-override`.  Unsigned integers are natural
numbers.
-/

namespace ServiceRouter

open Foundation

/-! ## Server -/

inductive InstanceSelection where
  | first
  | roundRobin
  | random
  | weightedRoundRobin
  deriving DecidableEq, Repr

structure PluginConfig where
  name : String
  order : Nat := 100
  enabled : Bool := true
  config : Value := .null
  deriving DecidableEq

structure HealthCheckConfig where
  intervalSecs : Nat := 10
  path : String := "/health"
  timeoutSecs : Nat := 5
  unhealthyThreshold : Nat := 3
  healthyThreshold : Nat := 1
  deriving DecidableEq

structure ServerConfig where
  host : String := "0.0.0.0"
  port : Nat := 8080
  upstreamTimeoutSecs : Nat := 30
  instanceSelection : InstanceSelection := .first
  maxRetries : Nat := 0
  circuitBreakerThreshold : Nat := 0
  circuitBreakerRecoverySecs : Nat := 30
  plugins : List PluginConfig := []
  healthCheck : Option HealthCheckConfig := none
  deriving DecidableEq

/-! ## Registries -/

inductive RegistryQueryMode where
  | priority
  | merge
  deriving DecidableEq, Repr

structure NacosAuth where
  username : String
  password : String
  tokenRefreshIntervalSecs : Nat := 1800
  deriving DecidableEq

structure NacosConfig where
  priority : Nat := 100
  serverAddr : String
  namespace_ : Option String
  group : Option String
  auth : Option NacosAuth
  deriving DecidableEq

structure BasicAuth where
  username : String
  password : String
  deriving DecidableEq

structure EurekaConfig where
  priority : Nat := 100
  serverUrl : String
  healthPath : String := "/apps"
  auth : Option BasicAuth
  deriving DecidableEq

structure K8sAuth where
  tokenFile : Option String
  token : Option String
  deriving DecidableEq

structure KubernetesConfig where
  priority : Nat := 100
  apiServerUrl : String := "https://kubernetes.default.svc"
  namespace_ : Option String
  kubeconfigPath : Option String
  kubeconfigContext : Option String
  insecureSkipTlsVerify : Bool := false
  endpointSliceLabelSelector : Option String := none
  auth : Option K8sAuth
  deriving DecidableEq

inductive MockRegistryHealthBehavior where
  | healthy
  | degraded (message : String)
  | unhealthy (message : String)
  deriving DecidableEq

structure MockServiceInstance where
  host : String
  port : Nat
  metadata : HashMap String String := ∅
  deriving DecidableEq

structure MockRegistryConfig where
  priority : Nat := 100
  services : HashMap String (List MockServiceInstance) := ∅
  errorServices : HashMap String String := ∅
  healthBehavior : MockRegistryHealthBehavior := .healthy
  deriving DecidableEq

inductive RegistryConfig where
  | nacos (config : NacosConfig)
  | eureka (config : EurekaConfig)
  | kubernetes (config : KubernetesConfig)
  | mock (config : MockRegistryConfig)
  deriving DecidableEq

structure RegistriesConfig where
  queryMode : RegistryQueryMode := .priority
  sources : List RegistryConfig := []
  deriving DecidableEq

/-! ## Routing rules -/

inductive PathMatcher where
  | exact (value : String)
  | prefix_ (value : String)
  | glob (value : String)
  | regex (value : String)
  deriving DecidableEq, Repr

structure RoutingRule where
  id : String
  path : PathMatcher
  methods : Option (List String) := none
  headers : Option (HashMap String String) := none
  serviceId : Option String
  upstreamUrl : Option String
  stripPrefix : Option String
  responseHeaders : Option (HashMap String String) := none
  priority : Nat := 100
  deriving DecidableEq

structure LocalOverrideEntry where
  routeId : String
  upstreamUrl : String
  deriving DecidableEq, Repr

structure AppConfig where
  configVersion : String := "1"
  server : ServerConfig := {}
  registries : RegistriesConfig := {}
  routes : List RoutingRule := []
  logLevel : String := "info"
  deriving DecidableEq

/-! ## Local overrides -/

/-- Redirect the first route an entry names; other routes are unchanged. -/
def overrideFirst (entry : LocalOverrideEntry) :
    List RoutingRule → List RoutingRule
  | [] => []
  | route :: routes =>
      if route.id = entry.routeId then
        { route with
          upstreamUrl := some entry.upstreamUrl
          serviceId := none } :: routes
      else route :: overrideFirst entry routes

def AppConfig.applyLocalOverrides (config : AppConfig)
    (overrides : List LocalOverrideEntry) : AppConfig :=
  { config with
    routes := overrides.foldl (fun routes entry =>
      overrideFirst entry routes) config.routes }

/-- `after` differs from `before` at most in its target. -/
def RoutingRule.Redirected (before after : RoutingRule) : Prop :=
  after = { before with
    upstreamUrl := after.upstreamUrl
    serviceId := after.serviceId }

theorem RoutingRule.Redirected.refl (rule : RoutingRule) :
    rule.Redirected rule := rfl

theorem RoutingRule.Redirected.trans {first second third : RoutingRule}
    (h : first.Redirected second) (h' : second.Redirected third) :
    first.Redirected third := by
  rw [Redirected, h', h]

theorem redirected_overrideFirst (entry : LocalOverrideEntry)
    {first routes : List RoutingRule}
    (h : List.Forall₂ RoutingRule.Redirected first routes) :
    List.Forall₂ RoutingRule.Redirected first (overrideFirst entry routes) := by
  induction h with
  | nil => exact .nil
  | cons hrule hrest ih =>
      unfold overrideFirst
      split
      · exact .cons (hrule.trans rfl) hrest
      · exact .cons hrule ih

theorem redirected_applyLocalOverrides (config : AppConfig)
    (overrides : List LocalOverrideEntry) :
    List.Forall₂ RoutingRule.Redirected config.routes
      (config.applyLocalOverrides overrides).routes := by
  have hfold (routes : List RoutingRule)
      (h : List.Forall₂ RoutingRule.Redirected config.routes routes) :
      List.Forall₂ RoutingRule.Redirected config.routes
        (overrides.foldl (fun routes entry => overrideFirst entry routes)
          routes) := by
    induction overrides generalizing routes with
    | nil => exact h
    | cons entry overrides ih =>
        exact ih _ (redirected_overrideFirst entry h)
  exact hfold config.routes (List.forall₂_same.mpr fun rule _ => .refl rule)

end ServiceRouter
