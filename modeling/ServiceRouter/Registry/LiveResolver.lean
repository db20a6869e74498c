import ServiceRouter.Foundation.Joining
import ServiceRouter.Main.Doctor
import ServiceRouter.Registry.Eureka
import ServiceRouter.Registry.Factory
import ServiceRouter.Registry.KubernetesClient
import ServiceRouter.Registry.Nacos

/-!
# The resolver over the network

The registries are programs here.  In priority mode they are asked one after
the other, in merge mode all at the same time.  Either way the resolver returns
what it computes from the answers, and in priority mode registries behind the
first with instances are left alone.
-/

namespace ServiceRouter

open Foundation

abbrev RegistryAnswer := Except RegistryError (List ServiceInstance)

/-! ## Registries as programs -/

structure LiveRegistry where
  kind : RegistryKind
  getHealthyInstances : String → RegistryProgram RegistryAnswer
  health : RegistryProgram RegistryHealth

/-- What the remote registries have in common: one request, and any response
shows that the registry can be reached. -/
def checkHealth (req : RegistryRequest) : RegistryProgram RegistryHealth := do
  let sent ← (RegistryOp.send req).ask
  match sent with
  | .ok status =>
      if status.isSuccess then return .healthy
      else return .degraded s!"HTTP {status.display}"
  | .error reason => return .unhealthy reason

namespace NacosRegistry

def healthRequest (registry : NacosRegistry) : RegistryRequest where
  url := s!"{registry.apiBase}/v1/console/health/liveness"

def live (registry : NacosRegistry) : LiveRegistry where
  kind := .nacos
  getHealthyInstances := registry.getHealthyInstances
  health := checkHealth registry.healthRequest

end NacosRegistry

namespace EurekaRegistry

def healthRequest (registry : EurekaRegistry) : RegistryRequest :=
  registry.addAuth
    { url := registry.healthUrl, accept := some "application/json" }

def live (registry : EurekaRegistry) (tables : CaseMapping) : LiveRegistry where
  kind := .eureka
  getHealthyInstances := registry.getHealthyInstances tables
  health := checkHealth registry.healthRequest

end EurekaRegistry

namespace K8sRegistry

def healthRequest (registry : K8sRegistry) : RegistryRequest :=
  registry.get registry.healthUrl

def live (registry : K8sRegistry) : LiveRegistry where
  kind := .kubernetes
  getHealthyInstances := registry.getHealthyInstances
  health := checkHealth registry.healthRequest

end K8sRegistry

structure MockRegistry where
  config : MockRegistryConfig

namespace MockRegistry

def getHealthyInstances (registry : MockRegistry) (serviceId : String) :
    RegistryProgram RegistryAnswer :=
  return (mockNew registry.config).getHealthyInstances serviceId

def healthOf : MockRegistryHealthBehavior → RegistryHealth
  | .healthy => .healthy
  | .degraded message =>
      if message.isEmpty then .degraded "mock degraded" else .degraded message
  | .unhealthy message =>
      if message.isEmpty then .unhealthy "mock unhealthy"
      else .unhealthy message

def live (registry : MockRegistry) : LiveRegistry where
  kind := .mock
  getHealthyInstances := registry.getHealthyInstances
  health := return healthOf registry.config.healthBehavior

end MockRegistry

/-! ## The resolver -/

structure LiveResolver where
  registries : List (Nat × LiveRegistry)
  queryMode : RegistryQueryMode
  sorted : registries.Pairwise fun a b => a.1 ≤ b.1

namespace LiveResolver

def new (registries : List (Nat × LiveRegistry))
    (queryMode : RegistryQueryMode) : LiveResolver where
  registries := sortByKey Prod.fst registries
  queryMode := queryMode
  sorted := by
    have htrue : registries.Pairwise fun _ _ => True :=
      List.pairwise_of_forall fun _ _ => trivial
    exact (pairwise_sortByKey Prod.fst htrue).imp fun h => h.1

def resolvePriority (serviceId : String) :
    List (Nat × LiveRegistry) → RegistryProgram RegistryAnswer
  | [] => return .error (.allFailed serviceId)
  | (_, registry) :: registries => do
      let answer ← registry.getHealthyInstances serviceId
      match answer with
      | .ok instances =>
          if !instances.isEmpty then return .ok instances
          else resolvePriority serviceId registries
      | .error _ => resolvePriority serviceId registries

/-- What is made of the answers once all registries have given theirs. -/
def mergeAnswers (serviceId : String) (results : List RegistryAnswer) :
    RegistryAnswer :=
  let merged := (results.foldl MultiRegistryResolver.mergeResult ([], [])).2
  if merged.isEmpty then .error (.allFailed serviceId) else .ok merged

def lookups (serviceId : String) (registries : List (Nat × LiveRegistry)) :
    List (RegistryProgram RegistryAnswer) :=
  registries.map fun entry => entry.2.getHealthyInstances serviceId

def MergeRun (serviceId : String) (registries : List (Nat × LiveRegistry))
    (events : List RegistryEvent) (result : RegistryAnswer) : Prop :=
  ∃ results, Joins (lookups serviceId registries) events results ∧
    result = mergeAnswers serviceId results

/-- The requests of all registries run at the same time. -/
def HealthRun (resolver : LiveResolver) (events : List RegistryEvent)
    (report : List (Nat × String × RegistryHealth)) : Prop :=
  ∃ results,
    Joins (resolver.registries.map fun entry => entry.2.health) events
      results ∧
    report = List.zipWith (fun entry health =>
      (entry.1, entry.2.kind.display, health)) resolver.registries results

/-! ## What the resolver makes of the answers -/

/-- The registries with the answers they have given. -/
def withAnswers (registries : List (Nat × LiveRegistry))
    (answers : List RegistryAnswer) : List (Nat × ServiceRegistry) :=
  List.zipWith (fun entry answer => (entry.1, ⟨fun _ => answer⟩)) registries
    answers

theorem withAnswers_cons (entry : Nat × LiveRegistry)
    (registries : List (Nat × LiveRegistry)) (answer : RegistryAnswer)
    (answers : List RegistryAnswer) :
    withAnswers (entry :: registries) (answer :: answers) =
      (entry.1, ⟨fun _ => answer⟩) :: withAnswers registries answers := rfl

theorem map_fst_withAnswers (registries : List (Nat × LiveRegistry))
    (answers : List RegistryAnswer) :
    (withAnswers registries answers).map Prod.fst <+:
      registries.map Prod.fst := by
  induction registries generalizing answers with
  | nil => exact List.nil_prefix
  | cons entry registries ih =>
      cases answers with
      | nil => exact List.nil_prefix
      | cons answer answers =>
          exact (List.prefix_cons_inj entry.1).mpr (ih answers)

/-- The pure resolver whose registries give these answers. -/
def answered (resolver : LiveResolver) (answers : List RegistryAnswer) :
    MultiRegistryResolver where
  registries := withAnswers resolver.registries answers
  queryMode := resolver.queryMode
  sorted := by
    have hsorted := List.pairwise_map.mpr resolver.sorted
    exact List.pairwise_map.mp
      (hsorted.sublist (map_fst_withAnswers _ answers).sublist)

/-- One registry has been asked, with these exchanges and this answer. -/
def AskedOf (serviceId : String) (entry : Nat × LiveRegistry)
    (asked : List RegistryExchange × RegistryAnswer) : Prop :=
  (entry.2.getHealthyInstances serviceId).Returns asked.1 asked.2

/-- The registries asked in turn: all were passed over but the last, which had
instances unless none was left. -/
structure AskedInTurn (serviceId : String)
    (registries : List (Nat × LiveRegistry)) (log : List RegistryExchange)
    (asked : List (List RegistryExchange × RegistryAnswer))
    (spared : List (Nat × LiveRegistry)) : Prop where
  each : ∃ contacted, registries = contacted ++ spared ∧
    List.Forall₂ (AskedOf serviceId) contacted asked
  log : log = (asked.map Prod.fst).flatten
  passedOver : ∀ answer ∈ asked.dropLast,
    MultiRegistryResolver.nonEmptyAnswer answer.2 = none
  found : spared ≠ [] → ∃ last instances, asked.getLast? = some last ∧
    MultiRegistryResolver.nonEmptyAnswer last.2 = some instances

section Priority

variable {serviceId : String} {registries spared : List (Nat × LiveRegistry)}
  {log own : List RegistryExchange} {answer result : RegistryAnswer}
  {asked : List (List RegistryExchange × RegistryAnswer)}

/-- A registry in front that is passed over is asked before the others. -/
theorem AskedInTurn.cons {entry : Nat × LiveRegistry}
    (h : AskedInTurn serviceId registries log asked spared)
    (hentry : AskedOf serviceId entry (own, answer))
    (hnone : MultiRegistryResolver.nonEmptyAnswer answer = none)
    (hasked : asked = [] → spared = []) :
    AskedInTurn serviceId (entry :: registries) (own ++ log)
      ((own, answer) :: asked) spared := by
  obtain ⟨contacted, rfl, heach⟩ := h.each
  refine ⟨⟨entry :: contacted, rfl, .cons hentry heach⟩, ?_, ?_, ?_⟩
  · rw [h.log]
    rfl
  · cases asked with
    | nil => exact List.forall_mem_nil _
    | cons first asked =>
        rw [List.dropLast_cons_cons, List.forall_mem_cons]
        exact ⟨hnone, h.passedOver⟩
  · intro hspared
    cases asked with
    | nil => exact absurd (hasked rfl) hspared
    | cons first asked =>
        obtain ⟨last, instances, hlast, hfound⟩ := h.found hspared
        exact ⟨last, instances, by rw [List.getLast?_cons_cons, hlast], hfound⟩

/-- The registries are asked in turn; the result is that of the pure resolver,
whatever the spared registries would have answered. -/
theorem resolvePriority_returns
    (h : (resolvePriority serviceId registries).Returns log result) :
    ∃ asked spared, AskedInTurn serviceId registries log asked spared ∧
      ∀ others, others.length = spared.length →
        MultiRegistryResolver.resolvePriority serviceId
          (withAnswers registries (asked.map Prod.snd ++ others)) = result := by
  induction registries generalizing log with
  | nil =>
      obtain ⟨rfl, rfl⟩ := Program.returns_done.mp h
      refine ⟨[], [], ⟨⟨[], rfl, .nil⟩, rfl, List.forall_mem_nil _,
        fun h => absurd rfl h⟩, fun others _ => ?_⟩
      cases others <;> rfl
  | cons entry registries ih =>
      obtain ⟨own, answer, rest, rfl, hentry, hrest⟩ :=
        Program.returns_bind.mp h
      have hpassed (hnone : MultiRegistryResolver.nonEmptyAnswer answer = none)
          (hnext : (resolvePriority serviceId registries).Returns rest
            result) :
          ∃ asked spared, AskedInTurn serviceId (entry :: registries)
              (own ++ rest) asked spared ∧
            ∀ others, others.length = spared.length →
              MultiRegistryResolver.resolvePriority serviceId
                (withAnswers (entry :: registries)
                  (asked.map Prod.snd ++ others)) = result := by
        obtain ⟨asked, spared, hasked, hpure⟩ := ih hnext
        refine ⟨(own, answer) :: asked, spared,
          hasked.cons hentry hnone ?_, fun others hlength => ?_⟩
        · rintro rfl
          by_contra hspared
          obtain ⟨last, instances, hlast, -⟩ := hasked.found hspared
          cases hlast
        · rw [List.map_cons, List.cons_append, withAnswers_cons,
            MultiRegistryResolver.resolvePriority, ← hpure others hlength]
          cases answer with
          | error e => rfl
          | ok instances =>
              cases instances with
              | nil => rfl
              | cons inst instances => cases hnone
      cases answer with
      | error e => exact hpassed rfl hrest
      | ok instances =>
          cases instances with
          | nil => exact hpassed rfl hrest
          | cons inst instances =>
              obtain ⟨rfl, rfl⟩ := Program.returns_done.mp hrest
              refine ⟨[(own, .ok (inst :: instances))], registries,
                ⟨⟨[entry], rfl, .cons hentry .nil⟩, rfl,
                  List.forall_mem_nil _, fun _ => ⟨_, _, rfl, rfl⟩⟩, ?_⟩
              intro others _
              rfl

end Priority

section Merge

variable {serviceId : String} {registries : List (Nat × LiveRegistry)}
  {events events' : List RegistryEvent} {results : List RegistryAnswer}
  {result result' : RegistryAnswer}

theorem map_answers_withAnswers
    (hlength : results.length = registries.length) (serviceId : String) :
    (withAnswers registries results).map
      (fun entry => entry.2.getHealthyInstances serviceId) = results := by
  induction registries generalizing results with
  | nil => rw [List.length_eq_zero_iff.mp hlength]; rfl
  | cons entry registries ih =>
      cases results with
      | nil => cases hlength
      | cons answer results =>
          rw [withAnswers_cons, List.map_cons,
            ih (Nat.succ.inj hlength)]

theorem resolveMerge_withAnswers
    (h : Joins (lookups serviceId registries) events results) :
    MultiRegistryResolver.resolveMerge serviceId
      (withAnswers registries results) = mergeAnswers serviceId results := by
  have hlength : results.length = registries.length :=
    h.length.trans (List.length_map _)
  rw [MultiRegistryResolver.resolveMerge,
    map_answers_withAnswers hlength serviceId]
  rfl

theorem MergeRun.result_eq (h : MergeRun serviceId registries events result)
    (h' : MergeRun serviceId registries events' result')
    (hown : ∀ k, exchangesOf k events = exchangesOf k events') :
    result = result' := by
  obtain ⟨results, hjoins, rfl⟩ := h
  obtain ⟨results', hjoins', rfl⟩ := h'
  rw [hjoins.results_eq hjoins' hown]

end Merge

/-- The live resolver returns what the pure one does for the answers that were
given.  In priority mode the registries are asked in turn and the rest spared,
in merge mode all are asked and the order of their exchanges does not matter. -/
theorem live_resolver_refines (resolver : LiveResolver) (serviceId : String) :
    (resolver.queryMode = .priority → ∀ log result,
      (resolvePriority serviceId resolver.registries).Returns log result →
      ∃ asked spared,
        AskedInTurn serviceId resolver.registries log asked spared ∧
        ∀ others, others.length = spared.length →
          (resolver.answered (asked.map Prod.snd ++ others)).resolve
            serviceId = result) ∧
    (resolver.queryMode = .merge → ∀ events result,
      MergeRun serviceId resolver.registries events result →
      (∃ results,
        Joins (lookups serviceId resolver.registries) events results ∧
        (resolver.answered results).resolve serviceId = result) ∧
      ∀ events' result',
        MergeRun serviceId resolver.registries events' result' →
        (∀ k, exchangesOf k events = exchangesOf k events') →
        result' = result) := by
  constructor
  · intro hmode log result h
    obtain ⟨asked, spared, hasked, hpure⟩ := resolvePriority_returns h
    refine ⟨asked, spared, hasked, fun others hlength => ?_⟩
    rw [MultiRegistryResolver.resolve]
    simp only [answered, hmode]
    exact hpure others hlength
  · intro hmode events result h
    refine ⟨?_, fun events' result' h' hown => (h.result_eq h' hown).symm⟩
    obtain ⟨results, hjoins, rfl⟩ := h
    refine ⟨results, hjoins, ?_⟩
    rw [MultiRegistryResolver.resolve]
    simp only [answered, hmode]
    exact resolveMerge_withAnswers hjoins

/-! ## A registry that does not know the service -/

def ordersMock : MockRegistry where
  config :=
    { services := AList.singleton "orders"
        [{ host := "127.0.0.1", port := 9001 }] }

def emptyEureka : EurekaRegistry where
  config := { serverUrl := "http://eureka", auth := none }

/-- A second registry that knows the service. -/
def spareMock : MockRegistry where
  config :=
    { services := AList.singleton "orders"
        [{ host := "127.0.0.1", port := 9002 }] }

/-- The registry that does not know the service comes first. -/
def eurekaThenMocks (queryMode : RegistryQueryMode) : LiveResolver :=
  .new [(3, spareMock.live), (2, ordersMock.live),
    (1, emptyEureka.live .ascii)] queryMode

def absentLog : List RegistryExchange :=
  [⟨.send (emptyEureka.appRequest .ascii "orders"),
    .ok ⟨404, "404 Not Found"⟩⟩]

def ordersInstance : ServiceInstance where
  host := "127.0.0.1"
  port := 9001

def spareInstance : ServiceInstance where
  host := "127.0.0.1"
  port := 9002

/-- Asked in turn, the last registry is spared; asked together, it counts. -/
theorem live_resolver_refines_absent :
    (∃ asked spared,
      AskedInTurn "orders" (eurekaThenMocks .priority).registries absentLog
        asked spared ∧
      ∀ others, others.length = spared.length →
        ((eurekaThenMocks .priority).answered
          (asked.map Prod.snd ++ others)).resolve "orders" =
            .ok [ordersInstance]) ∧
    ∃ results,
      Joins (lookups "orders" (eurekaThenMocks .merge).registries)
        (eventsAt 0 0 absentLog) results ∧
      ((eurekaThenMocks .merge).answered results).resolve "orders" =
        .ok [ordersInstance, spareInstance] := by
  have hpriority : (resolvePriority "orders"
      (eurekaThenMocks .priority).registries).Returns absentLog
      (.ok [ordersInstance]) := .step _ (.refl _)
  have hmerge : MergeRun "orders" (eurekaThenMocks .merge).registries
      (eventsAt 0 0 absentLog) (.ok [ordersInstance, spareInstance]) := by
    refine ⟨[.ok [], .ok [ordersInstance], .ok [spareInstance]],
      ⟨rfl, ?_, ?_⟩, rfl⟩
    · intro event hmem
      rw [List.mem_singleton.mp hmem]
      exact Nat.zero_lt_succ 2
    · intro k hk _
      match k, hk with
      | 0, _ => exact .step _ (.refl _)
      | 1, _ => exact .refl _
      | 2, _ => exact .refl _
  exact ⟨(live_resolver_refines (eurekaThenMocks .priority) "orders").1 rfl _ _
      hpriority,
    ((live_resolver_refines (eurekaThenMocks .merge) "orders").2 rfl _ _
      hmerge).1⟩

end LiveResolver

end ServiceRouter
