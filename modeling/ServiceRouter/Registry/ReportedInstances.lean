import ServiceRouter.Registry.KubernetesLookup
import ServiceRouter.Registry.LiveResolver
import ServiceRouter.Server.Readiness

/-!
# Which instances a lookup answers

A registry reports an instance if the body it has sent, or its configuration,
says that the instance takes traffic.  For every kind of registry a lookup
answers exactly the instances that were reported to it.
-/

namespace ServiceRouter

open Foundation

open MultiRegistryResolver (answeredInstances)

/-- No body of this shape was asked for. -/
def NotRead (shape : BodyShape) (log : List RegistryExchange) : Prop :=
  ∀ exchange ∈ log, exchange.op ≠ .json shape

theorem NotRead.nil (shape : BodyShape) : NotRead shape [] :=
  List.forall_mem_nil _

theorem NotRead.cons {shape : BodyShape} {exchange : RegistryExchange}
    {log : List RegistryExchange} (hexchange : exchange.op ≠ .json shape)
    (h : NotRead shape log) : NotRead shape (exchange :: log) :=
  List.forall_mem_cons.mpr ⟨hexchange, h⟩

theorem NotRead.append {shape : BodyShape}
    {first second : List RegistryExchange} (hfirst : NotRead shape first)
    (hsecond : NotRead shape second) : NotRead shape (first ++ second) :=
  List.forall_mem_append.mpr ⟨hfirst, hsecond⟩

theorem NotRead.not_mem {shape : BodyShape} {log : List RegistryExchange}
    (h : NotRead shape log) (body : Except String shape.Content) :
    ⟨.json shape, body⟩ ∉ log :=
  fun hmem => h _ hmem rfl

/-! ## Nacos and Eureka -/

/-- The list that was read has the instance, and it is healthy there. -/
def NacosRegistry.Reports (own : List RegistryExchange)
    (inst : ServiceInstance) : Prop :=
  ∃ list host, ⟨.json .nacosInstanceList, .ok list⟩ ∈ own ∧
    host ∈ NacosInstanceList.hosts list ∧ host.healthy = true ∧
    inst = host.toInstance

/-- The application that was read has the instance, and it is up. -/
def EurekaRegistry.Reports (own : List RegistryExchange)
    (inst : ServiceInstance) : Prop :=
  ∃ app i, ⟨.json .eurekaApp, .ok app⟩ ∈ own ∧
    i ∈ (EurekaApp.application app).instance_ ∧ i.status = "UP" ∧
    inst = i.toInstance

/-- An answer without instances is exact if no list was read. -/
theorem NacosRegistry.reports_of_unlisted {log : List RegistryExchange}
    {answer : RegistryAnswer} (hanswer : answeredInstances answer = [])
    (hlog : ∀ list, ⟨.json .nacosInstanceList, .ok list⟩ ∉ log)
    (inst : ServiceInstance) :
    inst ∈ answeredInstances answer ↔ NacosRegistry.Reports log inst := by
  rw [hanswer]
  refine ⟨fun hmem => (by cases hmem), ?_⟩
  rintro ⟨list, host, hmem, -⟩
  exact (hlog list hmem).elim

theorem EurekaRegistry.reports_of_unlisted {log : List RegistryExchange}
    {answer : RegistryAnswer} (hanswer : answeredInstances answer = [])
    (hlog : ∀ app, ⟨.json .eurekaApp, .ok app⟩ ∉ log)
    (inst : ServiceInstance) :
    inst ∈ answeredInstances answer ↔ EurekaRegistry.Reports log inst := by
  rw [hanswer]
  refine ⟨fun hmem => (by cases hmem), ?_⟩
  rintro ⟨app, i, hmem, -⟩
  exact (hlog app hmem).elim

theorem parseInstances_reports {status : StatusCode}
    {log : List RegistryExchange} {answer : RegistryAnswer}
    (h : (NacosRegistry.parseInstances status).Returns log answer)
    {before : List RegistryExchange}
    (hbefore : NotRead .nacosInstanceList before) (inst : ServiceInstance) :
    inst ∈ answeredInstances answer ↔
      NacosRegistry.Reports (before ++ log) inst := by
  unfold NacosRegistry.parseInstances at h
  split at h
  · obtain ⟨rfl, rfl⟩ := Program.returns_done.mp h
    rw [List.append_nil]
    exact NacosRegistry.reports_of_unlisted rfl (fun _ => hbefore.not_mem _) inst
  · obtain ⟨first, body, rest, rfl, hbody, h⟩ := Program.returns_bind.mp h
    obtain ⟨read, rfl, rfl⟩ := returns_readBody.mp hbody
    cases read with
    | error reason =>
        obtain ⟨rfl, rfl⟩ := Program.returns_done.mp h
        refine NacosRegistry.reports_of_unlisted rfl (fun list hmem => ?_) inst
        have hlast := (List.mem_append.mp hmem).resolve_left
          (hbefore.not_mem _)
        cases List.mem_singleton.mp hlast
    | ok list =>
        obtain ⟨rfl, rfl⟩ := Program.returns_done.mp h
        constructor
        · intro hmem
          obtain ⟨host, hhost, rfl⟩ := List.mem_map.mp hmem
          rw [List.mem_filter] at hhost
          exact ⟨list, host, by simp, hhost.1, hhost.2, rfl⟩
        · rintro ⟨read, host, hmem, hhost, hhealthy, rfl⟩
          have hlast := (List.mem_append.mp hmem).resolve_left
            (hbefore.not_mem _)
          cases List.mem_singleton.mp hlast
          exact List.mem_map.mpr
            ⟨host, List.mem_filter.mpr ⟨hhost, hhealthy⟩, rfl⟩

theorem onlyAsks_ask {α : Type} {allowed : RegistryOp → Prop}
    {op : RegistryOp} {f : op.Reply → RegistryProgram α} (hop : allowed op)
    (hf : ∀ reply, (f reply).OnlyAsks allowed) :
    (op.ask.bind f).OnlyAsks allowed :=
  ⟨hop, hf⟩

/-- Logging in reads no list of instances. -/
theorem authenticate_notList (registry : NacosRegistry) :
    registry.authenticate.OnlyAsks fun op : RegistryOp =>
      op ≠ .json .nacosInstanceList := by
  unfold NacosRegistry.authenticate
  cases registry.config.auth with
  | none => trivial
  | some auth =>
      apply onlyAsks_ask nofun
      intro sent
      cases sent with
      | error reason => trivial
      | ok status =>
          dsimp only
          split
          · trivial
          · refine ⟨nofun, fun body => ?_⟩
            cases body with
            | error reason => trivial
            | ok login => exact ⟨nofun, fun _ => trivial⟩

/-- The second try of a lookup whose token was not accepted. -/
theorem retryLookup_reports {registry : NacosRegistry} {serviceId : String}
    {log : List RegistryExchange} {answer : RegistryAnswer}
    (h : (registry.retryLookup serviceId).Returns log answer)
    {before : List RegistryExchange}
    (hbefore : NotRead .nacosInstanceList before) (inst : ServiceInstance) :
    inst ∈ answeredInstances answer ↔
      NacosRegistry.Reports (before ++ log) inst := by
  obtain ⟨loginLog, login, rest, rfl, hlogin, hretry⟩ :=
    Program.returns_bind.mp h
  have hfirst : NotRead .nacosInstanceList (before ++ loginLog) :=
    hbefore.append ((authenticate_notList registry).of_runs hlogin)
  rw [← List.append_assoc]
  cases login with
  | error e =>
      obtain ⟨rfl, rfl⟩ := Program.returns_done.mp hretry
      rw [List.append_nil]
      exact NacosRegistry.reports_of_unlisted rfl (fun _ => hfirst.not_mem _)
        inst
  | ok _ =>
      obtain ⟨current, afterCurrent, rfl, hreask⟩ :=
        returns_ask_bind.mp hretry
      obtain ⟨resent, afterResend, rfl, hresent⟩ :=
        returns_ask_bind.mp hreask
      have hasked : NotRead .nacosInstanceList
          ((before ++ loginLog) ++ [⟨.loadToken, current⟩,
            ⟨.send (registry.listRequest serviceId (.bearer current)),
              resent⟩]) :=
        hfirst.append (.cons nofun (.cons nofun (.nil _)))
      cases resent with
      | error reason =>
          obtain ⟨rfl, rfl⟩ := Program.returns_done.mp hresent
          exact NacosRegistry.reports_of_unlisted rfl
            (fun _ => hasked.not_mem _) inst
      | ok status => simpa using parseInstances_reports hresent hasked inst

theorem nacos_reports {registry : NacosRegistry} {serviceId : String}
    {log : List RegistryExchange} {answer : RegistryAnswer}
    (h : (registry.getHealthyInstances serviceId).Returns log answer)
    (inst : ServiceInstance) :
    inst ∈ answeredInstances answer ↔ NacosRegistry.Reports log inst := by
  obtain ⟨token, afterToken, rfl, hask⟩ := returns_ask_bind.mp h
  obtain ⟨sent, afterSend, rfl, hsent⟩ := returns_ask_bind.mp hask
  have hasked : NotRead .nacosInstanceList
      [⟨.loadToken, token⟩, ⟨.send (registry.listRequest serviceId
        (NacosRegistry.listAuth token)), sent⟩] :=
    .cons nofun (.cons nofun (.nil _))
  cases sent with
  | error reason =>
      obtain ⟨rfl, rfl⟩ := Program.returns_done.mp hsent
      exact NacosRegistry.reports_of_unlisted rfl (fun _ => hasked.not_mem _)
        inst
  | ok status =>
      dsimp only at hsent
      split at hsent
      · exact retryLookup_reports hsent hasked inst
      · exact parseInstances_reports hsent hasked inst

theorem eureka_reports {registry : EurekaRegistry} {tables : CaseMapping}
    {serviceId : String} {log : List RegistryExchange}
    {answer : RegistryAnswer}
    (h : (registry.getHealthyInstances tables serviceId).Returns log answer)
    (inst : ServiceInstance) :
    inst ∈ answeredInstances answer ↔ EurekaRegistry.Reports log inst := by
  obtain ⟨sent, rest, rfl, hsent⟩ := returns_ask_bind.mp h
  have hsingle (reply : Except String StatusCode) (app : EurekaApp) :
      (⟨.json .eurekaApp, .ok app⟩ : RegistryExchange) ∉
        [⟨.send (registry.appRequest tables serviceId), reply⟩] := by
    intro hmem
    cases List.mem_singleton.mp hmem
  cases sent with
  | error reason =>
      obtain ⟨rfl, rfl⟩ := Program.returns_done.mp hsent
      exact EurekaRegistry.reports_of_unlisted rfl (hsingle _) inst
  | ok status =>
      dsimp only at hsent
      split at hsent
      · obtain ⟨rfl, rfl⟩ := Program.returns_done.mp hsent
        exact EurekaRegistry.reports_of_unlisted rfl (hsingle _) inst
      split at hsent
      · obtain ⟨rfl, rfl⟩ := Program.returns_done.mp hsent
        exact EurekaRegistry.reports_of_unlisted rfl (hsingle _) inst
      split at hsent
      · obtain ⟨rfl, rfl⟩ := Program.returns_done.mp hsent
        exact EurekaRegistry.reports_of_unlisted rfl (hsingle _) inst
      · obtain ⟨first, body, last, rfl, hbody, hlast⟩ :=
          Program.returns_bind.mp hsent
        obtain ⟨read, rfl, rfl⟩ := returns_readBody.mp hbody
        cases read with
        | error reason =>
            obtain ⟨rfl, rfl⟩ := Program.returns_done.mp hlast
            refine EurekaRegistry.reports_of_unlisted rfl (fun app hmem => ?_)
              inst
            rcases List.mem_pair.mp hmem with hmem | hmem <;> cases hmem
        | ok app =>
            obtain ⟨rfl, rfl⟩ := Program.returns_done.mp hlast
            constructor
            · intro hmem
              obtain ⟨i, hi, rfl⟩ := List.mem_map.mp hmem
              rw [List.mem_filter, decide_eq_true_eq] at hi
              exact ⟨app, i, by simp, hi.1, hi.2, rfl⟩
            · rintro ⟨read, i, hmem, hi, hup, rfl⟩
              rcases List.mem_pair.mp hmem with hmem | hmem <;> cases hmem
              exact List.mem_map.mpr
                ⟨i, List.mem_filter.mpr ⟨hi, decide_eq_true hup⟩, rfl⟩

/-! ## Kubernetes -/

namespace K8sRegistry

/-- The entries that were read have the instance among their backends. -/
def Reports (own : List RegistryExchange) (inst : ServiceInstance) : Prop :=
  ∃ filter entries, ReadFilter own filter ∧ ReadEntries own filter entries ∧
    inst ∈ (filter.backends entries).map ServiceInstance.ofBackend

section Lookup

variable {registry : K8sRegistry} {serviceId : String}
  {first second third : List RegistryExchange} {filter : ServiceTcpFilter}
  {core : Except RegistryError (Option K8sEndpoints)}

/-- The log determines the filter. -/
theorem AfterService.filter_eq
    (h : AfterService registry serviceId first second filter core)
    (hthird : NotRead .k8sService third) {read : ServiceTcpFilter}
    (hread : ReadFilter (first ++ (second ++ third)) read) :
    read = filter := by
  obtain ⟨svc, hservice, rfl⟩ := h.service
  have hfirst {body : Except String K8sService}
      (hmem : ⟨.json .k8sService, body⟩ ∈ first ++ (second ++ third)) :
      ⟨.json .k8sService, body⟩ ∈ first := by
    refine (List.mem_append.mp hmem).resolve_right fun hrest => ?_
    rcases List.mem_append.mp hrest with hrest | hrest
    · cases (h.endpoints.of_mem hrest).1
    · exact hthird.not_mem _ hrest
  rcases hread with ⟨found, hmem, rfl⟩ | ⟨rfl, hnone⟩
  · cases hservice.mem_iff_found.mp (hfirst hmem)
    rfl
  · cases svc with
    | none => rfl
    | some svc =>
        exact absurd (List.mem_append_left _ (hservice.mem_iff_found.mpr rfl))
          (hnone (.ok svc))

/-- Without Endpoints and EndpointSlices nothing is reported. -/
theorem not_reports {own : List RegistryExchange}
    (hcore : ∀ endpoints, ⟨.json .k8sEndpoints, .ok endpoints⟩ ∉ own)
    (hslices : ∀ list, ⟨.json .endpointSliceList, .ok list⟩ ∉ own)
    (inst : ServiceInstance) : ¬ Reports own inst := by
  rintro ⟨filter, entries, -, hread, hinst⟩
  rcases hread with
    ⟨endpoints, hmem, -⟩ | ⟨-, ⟨list, hmem, -⟩ | ⟨rfl, -⟩⟩
  · exact hcore endpoints hmem
  · exact hslices list hmem
  · cases hinst

theorem notRead_fetched {req : RegistryRequest} {shape other : BodyShape}
    {log : List RegistryExchange}
    {outcome : Except RegistryError (Option shape.Content)}
    (h : Fetched req shape log outcome) (hne : other ≠ shape) :
    NotRead other log := by
  rintro ⟨op, reply⟩ hmem rfl
  exact hne (h.of_mem hmem).1

/-- The core Endpoints decide what is reported while no slices are read. -/
theorem AfterService.reports_core
    (h : AfterService registry serviceId first second filter core)
    (inst : ServiceInstance) :
    Reports (first ++ second) inst ↔
      ∃ found, core = .ok found ∧ inst ∈ coreInstances filter found := by
  obtain ⟨svc, hservice, -⟩ := h.service
  have hslices : NotRead .endpointSliceList (first ++ second) :=
    (notRead_fetched hservice (by decide)).append
      (notRead_fetched h.endpoints (by decide))
  have hthird : first ++ second = first ++ (second ++ []) := by simp
  have hmem {endpoints : K8sEndpoints} :
      ⟨.json .k8sEndpoints, .ok endpoints⟩ ∈ first ++ second ↔
        core = .ok (some endpoints) := by
    rw [hthird]
    exact h.mem_endpoints [] (by simp)
  have hfilter {read : ServiceTcpFilter}
      (hread : ReadFilter (first ++ second) read) : read = filter := by
    rw [hthird] at hread
    exact h.filter_eq (.nil _) hread
  have hself : ReadFilter (first ++ second) filter := by
    rw [hthird]
    exact h.readFilter [] (by simp)
  constructor
  · rintro ⟨read, entries, hread, hentries, hinst⟩
    cases hfilter hread
    rcases hentries with
      ⟨endpoints, hendpoints, rfl, -⟩ | ⟨-, ⟨list, hlist, -⟩ | ⟨rfl, -⟩⟩
    · refine ⟨_, hmem.mp hendpoints, ?_⟩
      rw [coreInstances_eq]
      exact hinst
    · exact (hslices.not_mem _ hlist).elim
    · cases hinst
  · rintro ⟨found, rfl, hinst⟩
    rw [coreInstances_eq] at hinst
    cases found with
    | none => cases hinst
    | some endpoints =>
        refine ⟨filter, endpoints.entries, hself,
          .inl ⟨endpoints, hmem.mpr rfl, rfl, fun hnil => ?_⟩, hinst⟩
        rw [Option.elim_some, hnil] at hinst
        cases hinst

/-- Once the slices were asked for, the core Endpoints having no backend, the
slices decide. -/
theorem AfterService.reports_slices {found : Option K8sEndpoints}
    (h : AfterService registry serviceId first second filter (.ok found))
    (hempty : coreInstances filter found = []) {req : RegistryRequest}
    {slices : Except RegistryError (Option EndpointSliceList)}
    (hthird : Fetched req .endpointSliceList third slices)
    (inst : ServiceInstance) :
    Reports (first ++ (second ++ third)) inst ↔
      ∃ list, slices = .ok (some list) ∧
        inst ∈ sliceInstances filter (some list) := by
  obtain ⟨svc, hservice, -⟩ := h.service
  have hservices : NotRead .k8sService third :=
    notRead_fetched hthird (by decide)
  have hendpoints : NotRead .k8sEndpoints third :=
    notRead_fetched hthird (by decide)
  have hcore {endpoints : K8sEndpoints}
      (hmem : ⟨.json .k8sEndpoints, .ok endpoints⟩ ∈
        first ++ (second ++ third)) :
      filter.backends endpoints.entries = [] := by
    have hfound := (h.mem_endpoints third hendpoints.not_mem).mp hmem
    cases hfound
    rw [coreInstances_eq] at hempty
    exact List.map_eq_nil_iff.mp hempty
  have hslices {list : EndpointSliceList} :
      ⟨.json .endpointSliceList, .ok list⟩ ∈ first ++ (second ++ third) ↔
        slices = .ok (some list) := by
    refine Iff.trans ?_ hthird.mem_iff_found
    refine ⟨fun hmem => ?_, fun hmem =>
      List.mem_append_right _ (List.mem_append_right _ hmem)⟩
    have hrest := (List.mem_append.mp hmem).resolve_left
      ((notRead_fetched hservice (by decide)).not_mem _)
    exact (List.mem_append.mp hrest).resolve_left
      ((notRead_fetched h.endpoints (by decide)).not_mem _)
  constructor
  · rintro ⟨read, entries, hread, hentries, hinst⟩
    cases h.filter_eq hservices hread
    rcases hentries with
      ⟨endpoints, hmem, rfl, hne⟩ | ⟨-, ⟨list, hmem, rfl⟩ | ⟨rfl, -⟩⟩
    · exact absurd (hcore hmem) hne
    · refine ⟨list, hslices.mp hmem, ?_⟩
      rw [sliceInstances_eq]
      exact hinst
    · cases hinst
  · rintro ⟨list, hlist, hinst⟩
    rw [sliceInstances_eq] at hinst
    exact ⟨filter, list.entries, h.readFilter third hservices.not_mem,
      .inr ⟨fun endpoints => hcore, .inl ⟨list, hslices.mpr hlist, rfl⟩⟩,
      hinst⟩

theorem kubernetes_reports {log : List RegistryExchange}
    {answer : RegistryAnswer}
    (h : (registry.getHealthyInstances serviceId).Returns log answer)
    (inst : ServiceInstance) :
    inst ∈ answeredInstances answer ↔ Reports log inst := by
  rcases lookup_cases h with ⟨e, hservice, rfl⟩ |
    ⟨first, second, filter, core, hafter, rfl, hcore⟩ |
    ⟨first, second, filter, found, third, slices, hafter, rfl, hempty, hslices,
      rfl⟩
  · have hcore : NotRead .k8sEndpoints log :=
      notRead_fetched hservice (by decide)
    have hslices : NotRead .endpointSliceList log :=
      notRead_fetched hservice (by decide)
    exact ⟨fun hmem => (by cases hmem), fun hreports =>
      (not_reports (fun _ => hcore.not_mem _) (fun _ => hslices.not_mem _)
        inst hreports).elim⟩
  · rw [hafter.reports_core inst]
    rcases hcore with ⟨e, rfl, rfl⟩ | ⟨found, rfl, -, rfl⟩
    · exact ⟨fun hmem => (by cases hmem), fun ⟨_, hfound, _⟩ =>
        (by cases hfound)⟩
    · refine ⟨fun hmem => ⟨found, rfl, hmem⟩, ?_⟩
      rintro ⟨_, ⟨⟩, hmem⟩
      exact hmem
  · rw [hafter.reports_slices hempty hslices inst]
    cases slices with
    | error e =>
        exact ⟨fun hmem => (by cases hmem), fun ⟨_, hlist, _⟩ =>
          (by cases hlist)⟩
    | ok list =>
        cases list with
        | none =>
            exact ⟨fun hmem => (by cases hmem), fun ⟨_, hlist, _⟩ =>
              (by cases hlist)⟩
        | some list =>
            refine ⟨fun hmem => ⟨list, rfl, hmem⟩, ?_⟩
            rintro ⟨_, ⟨⟩, hmem⟩
            exact hmem

end Lookup

end K8sRegistry

/-! ## Every kind of registry -/

namespace ConnectedRegistry

/-- The mock registry is configured with the instance, and the service is not
configured to fail. -/
def mockReports (config : MockRegistryConfig) (serviceId : String)
    (inst : ServiceInstance) : Prop :=
  config.errorServices.lookup serviceId = none ∧
    ∃ configured, config.services.lookup serviceId = some configured ∧
      inst ∈ configured.map MockServiceInstance.toInstance

def Reports (serviceId : String) (own : List RegistryExchange)
    (inst : ServiceInstance) : ConnectedRegistry → Prop
  | nacos _ => NacosRegistry.Reports own inst
  | eureka _ _ => EurekaRegistry.Reports own inst
  | kubernetes _ => K8sRegistry.Reports own inst
  | mock registry => mockReports registry.config serviceId inst

/-- A lookup answers exactly what was reported to it. -/
theorem answers_reported {registry : ConnectedRegistry} {serviceId : String}
    {log : List RegistryExchange} {answer : RegistryAnswer}
    (h : (registry.live.getHealthyInstances serviceId).Returns log answer)
    (inst : ServiceInstance) :
    inst ∈ answeredInstances answer ↔
      registry.Reports serviceId log inst := by
  cases registry with
  | nacos registry => exact nacos_reports h inst
  | eureka registry tables => exact eureka_reports h inst
  | kubernetes registry => exact K8sRegistry.kubernetes_reports h inst
  | mock registry =>
      obtain ⟨-, rfl⟩ := Program.returns_done.mp h
      change inst ∈ answeredInstances
        ((mockNew registry.config).getHealthyInstances serviceId) ↔
          mockReports registry.config serviceId inst
      simp only [mockNew, mockReports]
      cases registry.config.errorServices.lookup serviceId with
      | some message => simp [answeredInstances]
      | none =>
          cases registry.config.services.lookup serviceId with
          | none => simp [answeredInstances]
          | some configured => simp [answeredInstances]

end ConnectedRegistry

end ServiceRouter
