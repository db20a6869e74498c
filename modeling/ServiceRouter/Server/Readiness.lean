import ServiceRouter.Main.DoctorVerdict
import ServiceRouter.Registry.LiveResolver

/-!
# The readiness probe

`/ready` asks all registries for their health at the same time and fails only
if every one of them is unhealthy.  A remote registry is unhealthy exactly if
its request gets no response.
-/

namespace ServiceRouter

open Foundation

/-- At least one registry is healthy or degraded. -/
def anyRegistryOperational (report : List (Nat × String × RegistryHealth)) :
    Bool :=
  report.any fun entry => !entry.2.2.isUnhealthy

structure ReadyResponse where
  status : Nat
  body : Value

def healthRows (report : List (Nat × String × RegistryHealth)) : List Value :=
  report.map fun entry => registryHealthJsonRow entry.1 entry.2.1 entry.2.2

def readyResponse (report : List (Nat × String × RegistryHealth)) :
    ReadyResponse :=
  let registryHealth := healthRows report
  let n := registryHealth.length
  if anyRegistryOperational report then {
    status := 200
    body := .mkObject [
      ("status", .string "ready"),
      ("registries", .ofNat n),
      ("registry_health", .array registryHealth)] }
  else {
    status := 503
    body := .mkObject [
      ("status", .string "not_ready"),
      ("reason", .string "all_registries_unhealthy"),
      ("registries", .ofNat n),
      ("registry_health", .array registryHealth)] }

/-- Without registries direct URL routing still works. -/
def readyWithoutRegistries : ReadyResponse where
  status := 200
  body := .mkObject [("status", .string "ready"), ("registries", .ofNat 0)]

/-- A run of `ready_handler` with the configuration and the resolver it has
loaded. -/
def ReadyRun (config : AppConfig) (resolver : LiveResolver)
    (events : List RegistryEvent) (response : ReadyResponse) : Prop :=
  if config.registries.sources.isEmpty then
    events = [] ∧ response = readyWithoutRegistries
  else ∃ report, resolver.HealthRun events report ∧
    response = readyResponse report

/-! ## The kinds of registry -/

inductive ConnectedRegistry where
  | nacos (registry : NacosRegistry)
  | eureka (registry : EurekaRegistry) (tables : CaseMapping)
  | kubernetes (registry : K8sRegistry)
  | mock (registry : MockRegistry)

namespace ConnectedRegistry

def live : ConnectedRegistry → LiveRegistry
  | nacos registry => registry.live
  | eureka registry tables => registry.live tables
  | kubernetes registry => registry.live
  | mock registry => registry.live

/-- No response came, or the mock registry is configured so. -/
def Down (log : List RegistryExchange) : ConnectedRegistry → Prop
  | nacos registry =>
      ∃ reason, log = [⟨.send registry.healthRequest, .error reason⟩]
  | eureka registry _ =>
      ∃ reason, log = [⟨.send registry.healthRequest, .error reason⟩]
  | kubernetes registry =>
      ∃ reason, log = [⟨.send registry.healthRequest, .error reason⟩]
  | mock registry =>
      ∃ message, registry.config.healthBehavior = .unhealthy message

/-- The one request that the health of a remote registry takes. -/
def probes : ConnectedRegistry → List RegistryRequest
  | nacos registry => [registry.healthRequest]
  | eureka registry _ => [registry.healthRequest]
  | kubernetes registry => [registry.healthRequest]
  | mock _ => []

theorem checkHealth_returns {req : RegistryRequest}
    {log : List RegistryExchange} {health : RegistryHealth}
    (h : (checkHealth req).Returns log health) :
    requestsOf log = [req] ∧
      (health.isUnhealthy = true ↔
        ∃ reason, log = [⟨.send req, .error reason⟩]) := by
  obtain ⟨sent, rest, rfl, hrest⟩ := returns_ask_bind.mp h
  cases sent with
  | error reason =>
      obtain ⟨rfl, rfl⟩ := Program.returns_done.mp hrest
      exact ⟨rfl, fun _ => ⟨reason, rfl⟩, fun _ => rfl⟩
  | ok status =>
      dsimp only at hrest
      split at hrest
      · obtain ⟨rfl, rfl⟩ := Program.returns_done.mp hrest
        exact ⟨rfl, fun h => (by cases h), fun ⟨_, h⟩ => (by cases h)⟩
      · obtain ⟨rfl, rfl⟩ := Program.returns_done.mp hrest
        exact ⟨rfl, fun h => (by cases h), fun ⟨_, h⟩ => (by cases h)⟩

theorem healthOf_isUnhealthy (behavior : MockRegistryHealthBehavior) :
    (MockRegistry.healthOf behavior).isUnhealthy = true ↔
      ∃ message, behavior = .unhealthy message := by
  cases behavior with
  | healthy => exact ⟨fun h => (by cases h), fun ⟨_, h⟩ => (by cases h)⟩
  | degraded message =>
      rw [MockRegistry.healthOf]
      split <;> exact ⟨fun h => (by cases h), fun ⟨_, h⟩ => (by cases h)⟩
  | unhealthy message =>
      rw [MockRegistry.healthOf]
      split <;> exact ⟨fun _ => ⟨message, rfl⟩, fun _ => rfl⟩

theorem health_returns {registry : ConnectedRegistry}
    {log : List RegistryExchange} {health : RegistryHealth}
    (h : registry.live.health.Returns log health) :
    requestsOf log = registry.probes ∧
      (health.isUnhealthy = true ↔ registry.Down log) := by
  cases registry with
  | nacos registry => exact checkHealth_returns h
  | eureka registry tables => exact checkHealth_returns h
  | kubernetes registry => exact checkHealth_returns h
  | mock registry =>
      obtain ⟨rfl, rfl⟩ := Program.returns_done.mp h
      exact ⟨rfl, healthOf_isUnhealthy _⟩

end ConnectedRegistry

/-! ## When the server is not ready -/

namespace LiveResolver

def connect (registries : List (Nat × ConnectedRegistry))
    (queryMode : RegistryQueryMode) : LiveResolver :=
  .new (registries.map fun entry => (entry.1, entry.2.live)) queryMode

theorem connect_registries (registries : List (Nat × ConnectedRegistry))
    (queryMode : RegistryQueryMode) :
    (connect registries queryMode).registries =
      (sortByKey Prod.fst registries).map fun entry =>
        (entry.1, entry.2.live) :=
  (map_sortByKey Prod.fst _ registries).symm

end LiveResolver

section Ready

variable {registries : List (Nat × ConnectedRegistry)}
  {queryMode : RegistryQueryMode} {events : List RegistryEvent}
  {report : List (Nat × String × RegistryHealth)}

/-- The row of a registry, from its own exchanges. -/
structure ReportedAs (registry : Nat × ConnectedRegistry)
    (own : List RegistryExchange) (row : Nat × String × RegistryHealth) :
    Prop where
  priority : row.1 = registry.1
  kind : row.2.1 = registry.2.live.kind.display
  requests : requestsOf own = registry.2.probes
  unhealthy : row.2.2.isUnhealthy = true ↔ registry.2.Down own

/-- The report has one row for each registry, in stable priority order. -/
theorem healthRun_rows
    (h : (LiveResolver.connect registries queryMode).HealthRun events report) :
    report.length = registries.length ∧
      ∀ k (hk : k < (sortByKey Prod.fst registries).length)
        (hk' : k < report.length),
        ReportedAs ((sortByKey Prod.fst registries).get ⟨k, hk⟩)
          (exchangesOf k events) (report.get ⟨k, hk'⟩) := by
  obtain ⟨results, hjoins, rfl⟩ := h
  rw [LiveResolver.connect_registries] at hjoins ⊢
  have hresults : results.length = (sortByKey Prod.fst registries).length := by
    simpa using hjoins.length
  refine ⟨?_, fun k hk hk' => ?_⟩
  · simp [hresults, length_sortByKey]
  · have hreturns := hjoins.returns k (by simpa using hk) (hresults ▸ hk)
    simp only [List.get_eq_getElem, List.getElem_map] at hreturns
    have hhealth := ConnectedRegistry.health_returns hreturns
    constructor
    · simp
    · simp
    · exact hhealth.1
    · simpa using hhealth.2

/-- Some or all registries are down according to their own exchanges. -/
theorem exists_unhealthy_iff
    (h : (LiveResolver.connect registries queryMode).HealthRun events report) :
    (∃ row ∈ report, row.2.2.isUnhealthy = true) ↔
      ∃ (k : Nat) (hk : k < (sortByKey Prod.fst registries).length),
        ((sortByKey Prod.fst registries).get ⟨k, hk⟩).2.Down
          (exchangesOf k events) := by
  obtain ⟨hlength, hrows⟩ := healthRun_rows h
  rw [← length_sortByKey Prod.fst registries] at hlength
  constructor
  · rintro ⟨row, hmem, hunhealthy⟩
    obtain ⟨⟨k, hk⟩, rfl⟩ := List.get_of_mem hmem
    exact ⟨k, hlength ▸ hk,
      (hrows k (hlength ▸ hk) hk).unhealthy.mp hunhealthy⟩
  · rintro ⟨k, hk, hdown⟩
    exact ⟨_, List.get_mem report ⟨k, hlength ▸ hk⟩,
      (hrows k hk (hlength ▸ hk)).unhealthy.mpr hdown⟩

theorem anyRegistryOperational_eq_false_iff
    (h : (LiveResolver.connect registries queryMode).HealthRun events report) :
    anyRegistryOperational report = false ↔
      ∀ (k : Nat) (hk : k < (sortByKey Prod.fst registries).length),
        ((sortByKey Prod.fst registries).get ⟨k, hk⟩).2.Down
          (exchangesOf k events) := by
  obtain ⟨hlength, hrows⟩ := healthRun_rows h
  rw [← length_sortByKey Prod.fst registries] at hlength
  simp only [anyRegistryOperational, List.any_eq_false, Bool.not_eq_true',
    Bool.not_eq_false]
  constructor
  · intro hall k hk
    exact (hrows k hk (hlength ▸ hk)).unhealthy.mp
      (hall _ (List.get_mem report ⟨k, hlength ▸ hk⟩))
  · intro hall row hmem
    obtain ⟨⟨k, hk⟩, rfl⟩ := List.get_of_mem hmem
    exact (hrows k (hlength ▸ hk) hk).unhealthy.mpr (hall k (hlength ▸ hk))

theorem reportRegistries_rows (report : List (Nat × String × RegistryHealth))
    (state : DoctorState) :
    (reportRegistries report state).registryHealth =
      state.registryHealth ++ healthRows report := by
  have hfold (state : DoctorState) :
      (report.foldl reportHealth state).registryHealth =
        state.registryHealth ++ healthRows report := by
    induction report generalizing state with
    | nil => exact (List.append_nil _).symm
    | cons row report ih =>
        rw [List.foldl_cons, ih]
        exact List.append_assoc ..
  unfold reportRegistries
  split
  · next hempty =>
      rw [List.isEmpty_iff.mp hempty]
      exact (List.append_nil _).symm
  · exact hfold _

/-- What one probe of readiness has found. -/
structure ReadyReport (registries : List (Nat × ConnectedRegistry))
    (events : List RegistryEvent) (response : ReadyResponse)
    (report : List (Nat × String × RegistryHealth)) : Prop where
  length : report.length = registries.length
  rows : ∀ k (hk : k < (sortByKey Prod.fst registries).length)
    (hk' : k < report.length),
    ReportedAs ((sortByKey Prod.fst registries).get ⟨k, hk⟩)
      (exchangesOf k events) (report.get ⟨k, hk'⟩)
  body : response.body.getField "registry_health" =
    some (.array (healthRows report))
  status : response.status = 200 ∨ response.status = 503
  unavailable : response.status = 503 ↔
    ∀ (k : Nat) (hk : k < (sortByKey Prod.fst registries).length),
      ((sortByKey Prod.fst registries).get ⟨k, hk⟩).2.Down
        (exchangesOf k events)
  /-- The doctor prints the same rows and fails at the first that is down. -/
  doctor : (reportRegistries report {}).registryHealth = healthRows report ∧
    ((reportRegistries report {}).hasUnhealthy = true ↔
      ∃ (k : Nat) (hk : k < (sortByKey Prod.fst registries).length),
        ((sortByKey Prod.fst registries).get ⟨k, hk⟩).2.Down
          (exchangesOf k events))

/-- In whatever order the registries are asked and answer, the server is not
ready exactly if it has registries configured and all it has connected are
down; the rows are in priority order and those the doctor prints. -/
theorem ready_law {config : AppConfig} {response : ReadyResponse}
    (h : ReadyRun config (.connect registries queryMode) events response) :
    (config.registries.sources = [] →
      events = [] ∧ response = readyWithoutRegistries) ∧
    (config.registries.sources ≠ [] →
      ∃ report, ReadyReport registries events response report) := by
  unfold ReadyRun at h
  cases hsources : config.registries.sources with
  | nil =>
      rw [hsources] at h
      exact ⟨fun _ => h, fun hne => absurd rfl hne⟩
  | cons source sources =>
      rw [hsources] at h
      obtain ⟨report, hrun, rfl⟩ := h
      obtain ⟨hlength, hrows⟩ := healthRun_rows hrun
      have hdown := anyRegistryOperational_eq_false_iff hrun
      refine ⟨nofun, fun _ => ⟨report, hlength, hrows, ?_, ?_, ?_, ?_, ?_⟩⟩
      · unfold readyResponse
        split <;> simp [Value.getField_mkObject]
      · unfold readyResponse
        split
        · exact .inl rfl
        · exact .inr rfl
      · rw [← hdown]
        unfold readyResponse
        cases anyRegistryOperational report with
        | true => exact ⟨nofun, nofun⟩
        | false => exact ⟨fun _ => rfl, fun _ => rfl⟩
      · exact reportRegistries_rows report {}
      · rw [reportRegistries_hasUnhealthy, ← exists_unhealthy_iff hrun]
        exact or_iff_right nofun

end Ready

/-! ## A registry that is down beside one that is degraded -/

def deadMock : MockRegistry where
  config := { priority := 2, healthBehavior := .unhealthy "" }

def slowEureka : EurekaRegistry where
  config := { priority := 1, serverUrl := "http://eureka/", auth := none }

def mixedRegistries : List (Nat × ConnectedRegistry) :=
  [(2, .mock deadMock), (1, .eureka slowEureka .ascii)]

def mixedConfig : AppConfig where
  registries :=
    { sources := [.mock deadMock.config, .eureka slowEureka.config] }

def mixedEvents : List RegistryEvent :=
  [⟨0, 0, ⟨.send slowEureka.healthRequest,
    .ok ⟨500, "500 Internal Server Error"⟩⟩⟩]

def mixedReport : List (Nat × String × RegistryHealth) :=
  [(1, "Eureka", .degraded "HTTP 500 Internal Server Error"),
    (2, "Mock", .unhealthy "mock unhealthy")]

theorem ready_law_mixed :
    (readyResponse mixedReport).status = 200 ∧
      ∃ report, ReadyReport mixedRegistries mixedEvents
        (readyResponse mixedReport) report := by
  have hrun : ReadyRun mixedConfig (.connect mixedRegistries .priority)
      mixedEvents (readyResponse mixedReport) := by
    refine ⟨mixedReport, ⟨[.degraded "HTTP 500 Internal Server Error",
      .unhealthy "mock unhealthy"], ⟨rfl, ?_, ?_⟩, rfl⟩, rfl⟩
    · intro event hmem
      rw [List.mem_singleton.mp hmem]
      exact Nat.zero_lt_two
    · intro k hk _
      match k, hk with
      | 0, _ => exact .step _ (.refl _)
      | 1, _ => exact .refl _
  exact ⟨rfl, (ready_law hrun).2 nofun⟩

end ServiceRouter
