import ServiceRouter.Foundation.Fallible
import ServiceRouter.Registry.Resolver

/-!
# Building the resolver

Every source of the configuration becomes a registry, in order; the first one
that cannot be connected fails the whole resolver.  What the clients of remote
registries answer is a parameter, the mock registry is here.
-/

namespace ServiceRouter

open Foundation

/-- `reqwest::Client`, by its timeout. -/
structure HttpClient where
  timeoutSecs : Nat
  deriving DecidableEq

/-- The registries behind a network.  Nacos logs in when it is created and
Kubernetes reads its credentials, which may fail. -/
structure RegistryClients where
  nacosNew : NacosConfig → HttpClient → Except RegistryError ServiceRegistry
  eurekaNew : EurekaConfig → HttpClient → ServiceRegistry
  k8sNew : KubernetesConfig → Nat → Except RegistryError ServiceRegistry

def RegistryConfig.priority : RegistryConfig → Nat
  | .nacos c => c.priority
  | .eureka c => c.priority
  | .kubernetes c => c.priority
  | .mock c => c.priority

def MockServiceInstance.toInstance (inst : MockServiceInstance) :
    ServiceInstance where
  host := inst.host
  port := inst.port
  metadata := inst.metadata

def mockNew (config : MockRegistryConfig) : ServiceRegistry where
  getHealthyInstances serviceId :=
    match config.errorServices.lookup serviceId with
    | some msg => .error (.unexpectedResponse msg)
    | none =>
        .ok (((config.services.lookup serviceId).getD []).map
          MockServiceInstance.toInstance)

def connectRegistry (clients : RegistryClients) (upstreamTimeoutSecs : Nat) :
    RegistryConfig → Except RegistryError ServiceRegistry
  | .nacos c => clients.nacosNew c ⟨upstreamTimeoutSecs⟩
  | .eureka c => .ok (clients.eurekaNew c ⟨upstreamTimeoutSecs⟩)
  | .kubernetes c => clients.k8sNew c upstreamTimeoutSecs
  | .mock c => .ok (mockNew c)

def connectSources (clients : RegistryClients) (config : AppConfig) :
    Except RegistryError (List (Nat × ServiceRegistry)) :=
  config.registries.sources.mapM fun source => do
    let registry ← connectRegistry clients config.server.upstreamTimeoutSecs
      source
    return (source.priority, registry)

def buildResolver (clients : RegistryClients) (config : AppConfig) :
    Except RegistryError MultiRegistryResolver := do
  let registries ← connectSources clients config
  return MultiRegistryResolver.new registries config.registries.queryMode

/-- The sources connect, in stable priority order, to the same registries, and
these are queried in the same mode. -/
def ConnectsAlike (clients : RegistryClients) (first second : AppConfig) :
    Prop :=
  first.registries.queryMode = second.registries.queryMode ∧
    (connectSources clients first).map (sortByKey Prod.fst) =
      (connectSources clients second).map (sortByKey Prod.fst)

theorem connectsAlike_of_same_sources {clients : RegistryClients}
    {first second : AppConfig}
    (hregistries : first.registries = second.registries)
    (htimeout : first.server.upstreamTimeoutSecs =
      second.server.upstreamTimeoutSecs) :
    ConnectsAlike clients first second := by
  unfold ConnectsAlike connectSources
  rw [hregistries, htimeout]
  exact ⟨rfl, rfl⟩

theorem new_eq_new_iff {registries registries' : List (Nat × ServiceRegistry)}
    {queryMode queryMode' : RegistryQueryMode} :
    MultiRegistryResolver.new registries queryMode =
        MultiRegistryResolver.new registries' queryMode' ↔
      queryMode = queryMode' ∧
        sortByKey Prod.fst registries = sortByKey Prod.fst registries' := by
  simp [MultiRegistryResolver.new, and_comm]

theorem buildResolver_eq_ok {clients : RegistryClients} {config : AppConfig}
    {resolver : MultiRegistryResolver} :
    buildResolver clients config = .ok resolver ↔
      ∃ registries, connectSources clients config = .ok registries ∧
        MultiRegistryResolver.new registries config.registries.queryMode =
          resolver := by
  simp [buildResolver, bind_eq_ok_iff, pure, Except.pure]

/-- Another configuration builds the same resolver exactly if its sources
connect alike. -/
theorem buildResolver_iff_connectsAlike {clients : RegistryClients}
    {config config' : AppConfig} {resolver : MultiRegistryResolver}
    (h : buildResolver clients config = .ok resolver) :
    buildResolver clients config' = .ok resolver ↔
      ConnectsAlike clients config' config := by
  obtain ⟨registries, hconnect, rfl⟩ := buildResolver_eq_ok.mp h
  rw [buildResolver_eq_ok, ConnectsAlike, hconnect]
  cases connectSources clients config' with
  | error e => simp [Except.map]
  | ok registries' => simp [Except.map, new_eq_new_iff]

end ServiceRouter
