import ServiceRouter.Foundation.Folds
import ServiceRouter.Main.Doctor

/-!
# The verdict of the doctor

Every probe that fails is counted once, so the verdict is a failure exactly if
a registry is unhealthy or a probe failed.  A service is probed at its first
three instances only: one that is reachable at a later instance alone fails.
-/

namespace ServiceRouter

open Foundation

/-! ## What is wrong -/

def DoctorHost.targetReachable (host : DoctorHost) :
    Except String (String × Nat) → Bool
  | .ok (targetHost, port) => probeTcp host targetHost port
  | .error _ => false

def DoctorHost.reaches (host : DoctorHost) (inst : ServiceInstance) : Bool :=
  probeTcp host inst.host inst.port

/-- A service fails at the instances that are probed. -/
inductive ServiceFails (host : DoctorHost)
    (probed : List ServiceInstance → List ServiceInstance) :
    Except RegistryError (List ServiceInstance) → Prop
  | unresolved (e : RegistryError) : ServiceFails host probed (.error e)
  | noInstances : ServiceFails host probed (.ok [])
  | unreachable {instances : List ServiceInstance}
      (h : ∀ inst ∈ probed instances, host.reaches inst = false) :
      ServiceFails host probed (.ok instances)

/-- A reason to fail, when services are probed at the given instances. -/
inductive FailureCause (host : DoctorHost)
    (probed : List ServiceInstance → List ServiceInstance)
    (config : AppConfig) (resolver : DoctorResolver) : Prop
  | unhealthyRegistry {priority : Nat} {kind message : String}
      (h : (priority, kind, .unhealthy message) ∈ resolver.healthReport)
  | registryEndpoint {src : RegistryConfig} {kind configured : String}
      {priority : Nat} (hsrc : src ∈ config.registries.sources)
      (hremote : src.endpoint = some (kind, priority, configured))
      (h : host.targetReachable (parseHostPortForProbe host configured) =
        false)
  | upstreamUrl {route : RoutingRule} {url : String}
      (hroute : route ∈ config.routes) (hurl : route.upstreamUrl = some url)
      (h : host.targetReachable (parseHostPortFromUrl host url) = false)
  | serviceId {route : RoutingRule} {serviceId : String}
      (hroute : route ∈ config.routes) (hurl : route.upstreamUrl = none)
      (hservice : route.serviceId = some serviceId)
      (h : ServiceFails host probed (resolver.resolve serviceId))

/-- The instances that the code probes. -/
def firstThree (instances : List ServiceInstance) : List ServiceInstance :=
  instances.take 3

/-! ## Counting failures -/

section Probes

variable (host : DoctorHost) (resolver : DoctorResolver)

def endpointFails (src : RegistryConfig) : Bool :=
  src.endpoint.any fun endpoint =>
    !host.targetReachable (parseHostPortForProbe host endpoint.2.2)

def resolutionFails (probed : List ServiceInstance → List ServiceInstance) :
    Except RegistryError (List ServiceInstance) → Bool
  | .ok instances => !(probed instances).any host.reaches
  | .error _ => true

def routeFails (probed : List ServiceInstance → List ServiceInstance)
    (route : RoutingRule) : Bool :=
  match route.upstreamUrl, route.serviceId with
  | some url, _ => !host.targetReachable (parseHostPortFromUrl host url)
  | none, some serviceId =>
      resolutionFails host probed (resolver.resolve serviceId)
  | none, none => false

/-- A source is skipped, or its probe is added with its outcome. -/
theorem probeEndpoint_cases (state : DoctorState) (src : RegistryConfig) :
    (probeEndpoint host state src = state ∧ endpointFails host src = false) ∨
      ∃ row line, probeEndpoint host state src =
        state.addEndpoint (endpointFails host src) row line := by
  cases hsrc : src.endpoint with
  | none => simp only [probeEndpoint, endpointFails, hsrc, Option.any_none,
      true_and, true_or]
  | some endpoint =>
      obtain ⟨kind, priority, configured⟩ := endpoint
      refine .inr ?_
      simp only [probeEndpoint, endpointFails, hsrc, Option.any_some]
      cases parseHostPortForProbe host configured with
      | error e => exact ⟨_, _, rfl⟩
      | ok target =>
          obtain ⟨targetHost, port⟩ := target
          simp only [DoctorHost.targetReachable]
          cases probeTcp host targetHost port with
          | false => exact ⟨_, _, rfl⟩
          | true => exact ⟨_, _, rfl⟩

theorem probeUpstreamUrl_eq (state : DoctorState) (routeId url : String) :
    ∃ row lines, probeUpstreamUrl host state routeId url =
      state.addUpstream
        (!host.targetReachable (parseHostPortFromUrl host url)) row lines := by
  unfold probeUpstreamUrl
  cases parseHostPortFromUrl host url with
  | error e => exact ⟨_, _, rfl⟩
  | ok target =>
      obtain ⟨targetHost, port⟩ := target
      simp only [DoctorHost.targetReachable]
      cases probeTcp host targetHost port with
      | false => exact ⟨_, _, rfl⟩
      | true => exact ⟨_, _, rfl⟩

theorem probeServiceId_eq (state : DoctorState) (routeId serviceId : String)
    (resolved : Except RegistryError (List ServiceInstance)) :
    ∃ row lines, probeServiceId host state routeId serviceId resolved =
      state.addUpstream (resolutionFails host firstThree resolved) row
        lines := by
  cases resolved with
  | error e => exact ⟨_, _, rfl⟩
  | ok instances =>
      cases instances with
      | nil => exact ⟨_, _, rfl⟩
      | cons inst instances =>
          simp only [probeServiceId, resolutionFails]
          cases hfound : (firstThree (inst :: instances)).find? host.reaches with
          | none =>
              have hany : (firstThree (inst :: instances)).any host.reaches =
                  false := by
                rw [List.find?_eq_none] at hfound
                simpa using hfound
              rw [hany]
              unfold firstThree DoctorHost.reaches at hfound
              rw [hfound]
              exact ⟨_, _, rfl⟩
          | some reached =>
              have hany : (firstThree (inst :: instances)).any host.reaches =
                  true :=
                List.any_eq_true.mpr ⟨reached, List.mem_of_find?_eq_some hfound,
                  List.find?_some hfound⟩
              rw [hany]
              unfold firstThree DoctorHost.reaches at hfound
              rw [hfound]
              exact ⟨_, _, rfl⟩

/-- A route without a target is skipped, or its probe is added with its
outcome. -/
theorem probeRoute_cases (state : DoctorState) (route : RoutingRule) :
    (probeRoute host resolver state route = state ∧
        routeFails host resolver firstThree route = false) ∨
      ∃ row lines, probeRoute host resolver state route =
        state.addUpstream (routeFails host resolver firstThree route) row
          lines := by
  unfold probeRoute routeFails
  cases route.upstreamUrl with
  | some url => exact .inr (probeUpstreamUrl_eq host state route.id url)
  | none =>
      cases route.serviceId with
      | some serviceId => exact .inr (probeServiceId_eq host state _ _ _)
      | none => exact .inl ⟨rfl, rfl⟩

theorem probeEndpoint_probeFailures (state : DoctorState)
    (src : RegistryConfig) :
    (probeEndpoint host state src).probeFailures =
      state.probeFailures + if endpointFails host src then 1 else 0 := by
  rcases probeEndpoint_cases host state src with
    ⟨hskip, hfails⟩ | ⟨row, line, hadd⟩
  · simp [hskip, hfails]
  · simp [hadd, DoctorState.addEndpoint]

theorem probeRoute_probeFailures (state : DoctorState) (route : RoutingRule) :
    (probeRoute host resolver state route).probeFailures =
      state.probeFailures +
        if routeFails host resolver firstThree route then 1 else 0 := by
  rcases probeRoute_cases host resolver state route with
    ⟨hskip, hfails⟩ | ⟨row, lines, hadd⟩
  · simp [hskip, hfails]
  · simp [hadd, DoctorState.addUpstream]

/-- Probing counts failures but does not judge. -/
theorem probeEndpoint_hasUnhealthy (state : DoctorState)
    (src : RegistryConfig) :
    (probeEndpoint host state src).hasUnhealthy = state.hasUnhealthy := by
  rcases probeEndpoint_cases host state src with
    ⟨hskip, -⟩ | ⟨row, line, hadd⟩
  · rw [hskip]
  · rw [hadd, DoctorState.addEndpoint]

theorem probeRoute_hasUnhealthy (state : DoctorState) (route : RoutingRule) :
    (probeRoute host resolver state route).hasUnhealthy =
      state.hasUnhealthy := by
  rcases probeRoute_cases host resolver state route with
    ⟨hskip, -⟩ | ⟨row, lines, hadd⟩
  · rw [hskip]
  · rw [hadd, DoctorState.addUpstream]

/-- Where the sources are all in memory, none of them fails. -/
theorem probeEndpoints_probeFailures (sources : List RegistryConfig)
    (state : DoctorState) :
    (probeEndpoints host sources state).probeFailures =
      state.probeFailures + sources.countP (endpointFails host) := by
  unfold probeEndpoints
  split
  case isTrue =>
    exact foldl_count DoctorState.probeFailures
      (probeEndpoint_probeFailures host) sources _
  case isFalse hremote =>
    have hnone : sources.countP (endpointFails host) = 0 := by
      rw [List.countP_eq_zero]
      intro src hsrc
      simp only [List.any_eq_true, not_exists, not_and] at hremote
      have hlocal := hremote src hsrc
      rw [Bool.not_eq_true, Option.isSome_eq_false_iff,
        Option.isNone_iff_eq_none] at hlocal
      simp [endpointFails, hlocal]
    rw [hnone]
    rfl

theorem probeEndpoints_hasUnhealthy (sources : List RegistryConfig)
    (state : DoctorState) :
    (probeEndpoints host sources state).hasUnhealthy = state.hasUnhealthy := by
  unfold probeEndpoints
  split
  · exact foldl_unchanged DoctorState.hasUnhealthy
      (probeEndpoint_hasUnhealthy host) sources _
  · rfl

theorem probeNetwork_hasUnhealthy (config : AppConfig) (state : DoctorState)
    (hstart : state.probeFailures = 0) :
    (probeNetwork host config resolver state).hasUnhealthy = true ↔
      state.hasUnhealthy = true ∨
        (∃ src ∈ config.registries.sources, endpointFails host src = true) ∨
        ∃ route ∈ config.routes,
          routeFails host resolver firstThree route = true := by
  have hresult (probed : DoctorState) :
      (probeResult probed).hasUnhealthy = true ↔
        probed.hasUnhealthy = true ∨ 0 < probed.probeFailures := by
    unfold probeResult
    split
    case isTrue hfailed => simp [hfailed]
    case isFalse hfailed => simp [hfailed, DoctorState.say]
  have hfailures := foldl_count DoctorState.probeFailures
    (probeRoute_probeFailures host resolver) config.routes
    ((probeEndpoints host config.registries.sources state).say
      " - upstream probe:")
  have hunchanged := foldl_unchanged DoctorState.hasUnhealthy
    (probeRoute_hasUnhealthy host resolver) config.routes
    ((probeEndpoints host config.registries.sources state).say
      " - upstream probe:")
  unfold probeNetwork
  rw [hresult, hfailures, hunchanged]
  simp only [DoctorState.say, probeEndpoints_probeFailures,
    probeEndpoints_hasUnhealthy, hstart, Nat.zero_add,
    Nat.add_pos_iff_pos_or_pos, List.countP_pos_iff]

end Probes

/-! ## The registries -/

theorem reportHealth_probeFailures (state : DoctorState)
    (entry : Nat × String × RegistryHealth) :
    (reportHealth state entry).probeFailures = state.probeFailures := rfl

theorem reportHealth_hasUnhealthy (state : DoctorState)
    (entry : Nat × String × RegistryHealth) :
    (reportHealth state entry).hasUnhealthy = true ↔
      state.hasUnhealthy = true ∨ entry.2.2.isUnhealthy = true :=
  Bool.or_eq_true_iff

theorem reportRegistries_hasUnhealthy
    (report : List (Nat × String × RegistryHealth)) (state : DoctorState) :
    (reportRegistries report state).hasUnhealthy = true ↔
      state.hasUnhealthy = true ∨
        ∃ entry ∈ report, entry.2.2.isUnhealthy = true := by
  cases report with
  | nil => simp [reportRegistries, DoctorState.say]
  | cons entry report =>
      exact foldl_flag (DoctorState.hasUnhealthy · = true)
        reportHealth_hasUnhealthy (entry :: report) _

theorem reportRegistries_probeFailures
    (report : List (Nat × String × RegistryHealth)) (state : DoctorState) :
    (reportRegistries report state).probeFailures = state.probeFailures := by
  cases report with
  | nil => rfl
  | cons entry report =>
      exact foldl_unchanged DoctorState.probeFailures
        reportHealth_probeFailures (entry :: report) _

/-! ## The verdict -/

def DoctorOutput.ReportsFail : DoctorOutput → Prop
  | .json report => report.getField "status" = some (.string "fail")
  | .text lines => lines.getLast? = some "Doctor result: FAIL"

theorem reportsFail_toJson_iff (state : DoctorState) (configPath : PathBuf)
    (probeUpstream : Bool) :
    (DoctorOutput.json (state.toJson configPath probeUpstream)).ReportsFail ↔
      state.hasUnhealthy = true := by
  rw [DoctorOutput.ReportsFail, DoctorState.toJson, Value.getField_mkObject]
  cases state.hasUnhealthy <;> simp [List.lookup_cons]

theorem reportsFail_toLines_iff (state : DoctorState) :
    (DoctorOutput.text state.toLines).ReportsFail ↔
      state.hasUnhealthy = true := by
  rw [DoctorOutput.ReportsFail, DoctorState.toLines, List.getLast?_concat]
  cases state.hasUnhealthy <;> simp

/-- In JSON the status is a failure exactly if the exit code is one, also
where a first check failed. -/
theorem doctor_json_reportsFail_iff (host : DoctorHost) (configPath : PathBuf)
    (probeUpstream : Bool) :
    (doctor host configPath probeUpstream true).output.ReportsFail ↔
      (doctor host configPath probeUpstream true).exitCode = 1 := by
  unfold doctor
  cases initialChecks host configPath with
  | error failure =>
      simp [DoctorOutput.ReportsFail, checkFailureJson,
        Value.getField_mkObject, List.lookup_cons]
  | ok passed =>
      obtain ⟨config, resolver, lines⟩ := passed
      simp only [if_true, reportsFail_toJson_iff]
      split <;> simp_all

theorem serviceFails_iff {host : DoctorHost}
    {resolved : Except RegistryError (List ServiceInstance)} :
    ServiceFails host firstThree resolved ↔
      resolutionFails host firstThree resolved = true := by
  constructor
  · rintro (e | _ | h)
    · rfl
    · rfl
    · simpa [resolutionFails] using h
  · intro h
    cases resolved with
    | error e => exact .unresolved e
    | ok instances => exact .unreachable (by simpa [resolutionFails] using h)

section Verdict

variable {host : DoctorHost} {configPath : PathBuf} {config : AppConfig}
  {resolver : DoctorResolver} {lines : List String}

theorem failureCause_iff :
    FailureCause host firstThree config resolver ↔
      (∃ entry ∈ resolver.healthReport, entry.2.2.isUnhealthy = true) ∨
        (∃ src ∈ config.registries.sources, endpointFails host src = true) ∨
        ∃ route ∈ config.routes,
          routeFails host resolver firstThree route = true := by
  constructor
  · intro hcause
    cases hcause with
    | unhealthyRegistry h =>
        exact .inl ⟨_, h, rfl⟩
    | registryEndpoint hsrc hremote h =>
        refine .inr (.inl ⟨_, hsrc, ?_⟩)
        simp [endpointFails, hremote, h]
    | upstreamUrl hroute hurl h =>
        refine .inr (.inr ⟨_, hroute, ?_⟩)
        simp [routeFails, hurl, h]
    | serviceId hroute hurl hservice h =>
        refine .inr (.inr ⟨_, hroute, ?_⟩)
        simp only [routeFails, hurl, hservice]
        exact serviceFails_iff.mp h
  · rintro (⟨⟨priority, kind, health⟩, hentry, hunhealthy⟩ |
      ⟨src, hsrc, hfails⟩ | ⟨route, hroute, hfails⟩)
    · cases health with
      | unhealthy message => exact .unhealthyRegistry hentry
      | healthy => cases hunhealthy
      | degraded message => cases hunhealthy
    · unfold endpointFails at hfails
      cases hremote : src.endpoint with
      | none =>
          rw [hremote] at hfails
          cases hfails
      | some endpoint =>
          rw [hremote] at hfails
          exact .registryEndpoint hsrc hremote (by simpa using hfails)
    · unfold routeFails at hfails
      cases hurl : route.upstreamUrl with
      | some url =>
          rw [hurl] at hfails
          exact .upstreamUrl hroute hurl (by simpa using hfails)
      | none =>
          rw [hurl] at hfails
          cases hservice : route.serviceId with
          | none =>
              rw [hservice] at hfails
              cases hfails
          | some serviceId =>
              rw [hservice] at hfails
              exact .serviceId hroute hurl hservice (serviceFails_iff.mpr hfails)

/-- The doctor fails exactly if a cause is found at the first instances. -/
theorem doctor_reportsFail_iff
    (hchecks : initialChecks host configPath = .ok (config, resolver, lines))
    (asJson : Bool) :
    (doctor host configPath true asJson).output.ReportsFail ↔
      FailureCause host firstThree config resolver := by
  have hstart : (reportRegistries resolver.healthReport
      { lines := lines }).probeFailures = 0 :=
    reportRegistries_probeFailures _ _
  have hverdict := probeNetwork_hasUnhealthy host resolver config _ hstart
  rw [reportRegistries_hasUnhealthy, or_iff_right Bool.false_ne_true]
    at hverdict
  rw [failureCause_iff, ← hverdict]
  simp only [doctor, hchecks, if_true]
  cases asJson with
  | true => exact reportsFail_toJson_iff _ _ _
  | false => exact reportsFail_toLines_iff _

end Verdict

/-! ## Later instances -/

/-- Reachable at all only if reachable at the first three instances. -/
def ReachedEarly (host : DoctorHost) (resolver : DoctorResolver)
    (route : RoutingRule) : Prop :=
  ∀ serviceId instances, route.upstreamUrl = none →
    route.serviceId = some serviceId →
    resolver.resolve serviceId = .ok instances →
    (∃ inst ∈ instances, host.reaches inst = true) →
    ∃ inst ∈ firstThree instances, host.reaches inst = true

theorem ServiceFails.firstThree_of_all {host : DoctorHost}
    {resolved : Except RegistryError (List ServiceInstance)}
    (h : ServiceFails host id resolved) :
    ServiceFails host firstThree resolved := by
  cases h with
  | unresolved e => exact .unresolved e
  | noInstances => exact .noInstances
  | unreachable h =>
      exact .unreachable fun inst hinst => h inst (List.mem_of_mem_take hinst)

theorem ServiceFails.all_of_firstThree {host : DoctorHost}
    {resolved : Except RegistryError (List ServiceInstance)}
    (hearly : ∀ instances, resolved = .ok instances →
      (∃ inst ∈ instances, host.reaches inst = true) →
      ∃ inst ∈ firstThree instances, host.reaches inst = true)
    (h : ServiceFails host firstThree resolved) :
    ServiceFails host id resolved := by
  cases h with
  | unresolved e => exact .unresolved e
  | noInstances => exact .noInstances
  | unreachable hfirst =>
      refine .unreachable fun inst hinst => Bool.eq_false_iff.mpr fun hreach => ?_
      obtain ⟨early, hmem, hearly⟩ := hearly _ rfl ⟨inst, hinst, hreach⟩
      rw [hfirst early hmem] at hearly
      cases hearly

/-- Causes whose services fail at other instances as well. -/
theorem FailureCause.mono {host : DoctorHost} {config : AppConfig}
    {resolver : DoctorResolver}
    {probed probed' : List ServiceInstance → List ServiceInstance}
    (hservice : ∀ route ∈ config.routes, ∀ serviceId,
      route.upstreamUrl = none → route.serviceId = some serviceId →
      ServiceFails host probed (resolver.resolve serviceId) →
      ServiceFails host probed' (resolver.resolve serviceId))
    (h : FailureCause host probed config resolver) :
    FailureCause host probed' config resolver := by
  cases h with
  | unhealthyRegistry h => exact .unhealthyRegistry h
  | registryEndpoint hsrc hremote h => exact .registryEndpoint hsrc hremote h
  | upstreamUrl hroute hurl h => exact .upstreamUrl hroute hurl h
  | serviceId hroute hurl hid h =>
      exact .serviceId hroute hurl hid (hservice _ hroute _ hurl hid h)

/-- The verdict is exact exactly if there is a cause to fail, or each service
that is reachable at all is reachable at one of its first three instances. -/
theorem doctor_verdict_exact_iff {host : DoctorHost} {configPath : PathBuf}
    {config : AppConfig} {resolver : DoctorResolver} {lines : List String}
    (hchecks : initialChecks host configPath = .ok (config, resolver, lines))
    (asJson : Bool) :
    ((doctor host configPath true asJson).output.ReportsFail ↔
        FailureCause host id config resolver) ↔
      FailureCause host id config resolver ∨
        ∀ route ∈ config.routes, ReachedEarly host resolver route := by
  rw [doctor_reportsFail_iff hchecks]
  have hfirst (h : FailureCause host id config resolver) :
      FailureCause host firstThree config resolver :=
    h.mono fun _ _ _ _ _ => ServiceFails.firstThree_of_all
  constructor
  · intro hexact
    by_cases hcause : FailureCause host id config resolver
    · exact .inl hcause
    · refine .inr fun route hroute serviceId instances hurl hid hresolved
        hreach => ?_
      by_contra hnone
      have hfails : ServiceFails host firstThree
          (resolver.resolve serviceId) := by
        rw [hresolved]
        exact .unreachable (by simpa using hnone)
      exact hcause (hexact.mp (.serviceId hroute hurl hid hfails))
  · rintro (hcause | hearly)
    · exact iff_of_true (hfirst hcause) hcause
    · refine ⟨fun h => h.mono fun route hroute serviceId hurl hid => ?_, hfirst⟩
      exact ServiceFails.all_of_firstThree fun instances hresolved =>
        hearly route hroute serviceId instances hurl hid hresolved

def ordersRoute : RoutingRule where
  id := "orders"
  path := .prefix_ "/orders"
  serviceId := some "order-service"
  upstreamUrl := none
  stripPrefix := none

def ordersHosts : List String :=
  ["10.0.0.1", "10.0.0.2", "10.0.0.3", "10.0.0.4"]

def ordersServices : HashMap String (List MockServiceInstance) :=
  AList.singleton "order-service" (ordersHosts.map fun targetHost =>
    { host := targetHost, port := 9000 })

def ordersRegistry : MockRegistryConfig where
  services := ordersServices

def ordersConfig : AppConfig where
  registries := { sources := [.mock ordersRegistry] }
  routes := [ordersRoute]

def ordersResolver : DoctorResolver :=
  (MultiRegistryResolver.new [(100, mockNew ordersRegistry)]
    .priority).forDoctor [(100, "Mock", .healthy)]

/-- A host on which one address accepts connections. -/
def ordersHost (alive : String) : DoctorHost where
  configExists := true
  loadConfig := .ok ordersConfig
  bind _ := .ok ()
  buildResolver _ := .ok ordersResolver
  urlParse _ := .error "relative URL without a base"
  debug t := "\"" ++ t ++ "\""
  connects addr := addr == alive

def ordersYaml : PathBuf := ⟨["orders.yaml"], "orders.yaml"⟩

theorem doctor_verdict_exact_iff_orders :
    ((doctor (ordersHost "10.0.0.2:9000") ordersYaml true
          true).output.ReportsFail ↔
        FailureCause (ordersHost "10.0.0.2:9000") id ordersConfig
          ordersResolver) ↔
      FailureCause (ordersHost "10.0.0.2:9000") id ordersConfig
          ordersResolver ∨
        ∀ route ∈ ordersConfig.routes,
          ReachedEarly (ordersHost "10.0.0.2:9000") ordersResolver route :=
  doctor_verdict_exact_iff rfl true

/-- A service that is reachable at its fourth instance fails. -/
theorem doctor_misses_fourth :
    ¬ ((doctor (ordersHost "10.0.0.4:9000") ordersYaml true
          true).output.ReportsFail ↔
        FailureCause (ordersHost "10.0.0.4:9000") id ordersConfig
          ordersResolver) := by
  have hresolved : ordersResolver.resolve "order-service" =
      .ok (ordersHosts.map fun targetHost =>
        { host := targetHost, port := 9000 }) := rfl
  have hfails : (doctor (ordersHost "10.0.0.4:9000") ordersYaml true
      true).output.ReportsFail := by
    refine (doctor_reportsFail_iff rfl true).mpr
      (.serviceId (List.mem_singleton_self ordersRoute) rfl rfl ?_)
    rw [hresolved]
    exact .unreachable (by decide)
  intro hexact
  cases hexact.mp hfails with
  | unhealthyRegistry h => cases List.mem_singleton.mp h
  | registryEndpoint hsrc hremote h =>
      cases List.mem_singleton.mp hsrc
      cases hremote
  | upstreamUrl hroute hurl h =>
      cases List.mem_singleton.mp hroute
      cases hurl
  | serviceId hroute hurl hid h =>
      cases List.mem_singleton.mp hroute
      cases hid
      rw [hresolved] at h
      cases h with
      | unreachable h =>
          have hfourth := h { host := "10.0.0.4", port := 9000 }
            (List.mem_map.mpr ⟨"10.0.0.4", by decide, rfl⟩)
          exact absurd hfourth (by decide)

end ServiceRouter
