import ServiceRouter.Registry.EndpointFlattening
import ServiceRouter.Registry.KubernetesClient

/-!
# What a Kubernetes lookup asks and returns

Each of the three requests ends in one of six ways.  A lookup asks for the
Service, its Endpoints and its EndpointSlices in this order, each only if the
one before was answered and left something open.
-/

namespace ServiceRouter

open Foundation

/-! ## One request -/

/-- The exchanges of one request, and the content that was found or that it is
absent. -/
inductive Fetched (req : RegistryRequest) (shape : BodyShape) :
    List RegistryExchange → Except RegistryError (Option shape.Content) → Prop
  | transport (reason : String) :
      Fetched req shape [⟨.send req, .error reason⟩] (.error (.http reason))
  | denied (status : StatusCode) (h : status.deniesAccess = true) :
      Fetched req shape [⟨.send req, .ok status⟩] (.error .authFailed)
  | absent (status : StatusCode) (h : status.isNotFound = true) :
      Fetched req shape [⟨.send req, .ok status⟩] (.ok none)
  | refused (status : StatusCode) (text : String)
      (h : status.deniesAccess = false) :
      Fetched req shape [⟨.send req, .ok status⟩]
        (.error (.unexpectedResponse text))
  | unreadable (status : StatusCode) (reason : String) :
      Fetched req shape
        [⟨.send req, .ok status⟩, ⟨.json shape, .error reason⟩]
        (.error (.unexpectedResponse reason))
  | found (status : StatusCode) (content : shape.Content) :
      Fetched req shape [⟨.send req, .ok status⟩, ⟨.json shape, .ok content⟩]
        (.ok (some content))

/-- The last exchange is a request whose credentials were not accepted. -/
def EndsDenied (log : List RegistryExchange) : Prop :=
  ∃ req status, log.getLast? = some ⟨.send req, .ok status⟩ ∧
    status.deniesAccess = true

namespace Fetched

variable {req : RegistryRequest} {shape : BodyShape}
  {log : List RegistryExchange}
  {outcome : Except RegistryError (Option shape.Content)}

theorem requestsOf_eq (h : Fetched req shape log outcome) :
    requestsOf log = [req] := by
  cases h <;> rfl

theorem getLast?_append (h : Fetched req shape log outcome)
    (before : List RegistryExchange) :
    (before ++ log).getLast? = log.getLast? := by
  cases h <;> simp

/-- A body that was read has the shape asked for, and decides the outcome. -/
theorem of_mem (h : Fetched req shape log outcome) {read : BodyShape}
    {body : Except String read.Content} (hmem : ⟨.json read, body⟩ ∈ log) :
    read = shape ∧ outcome ≠ .ok none := by
  cases h with
  | unreadable status reason =>
      rcases List.mem_pair.mp hmem with hmem | hmem <;> cases hmem
      exact ⟨rfl, nofun⟩
  | found status content =>
      rcases List.mem_pair.mp hmem with hmem | hmem <;> cases hmem
      exact ⟨rfl, nofun⟩
  | _ => cases List.mem_singleton.mp hmem

theorem mem_iff_found (h : Fetched req shape log outcome)
    {content : shape.Content} :
    ⟨.json shape, .ok content⟩ ∈ log ↔ outcome = .ok (some content) := by
  cases h with
  | found status read =>
      constructor
      · intro hmem
        rcases List.mem_pair.mp hmem with hmem | hmem <;> cases hmem
        rfl
      · rintro ⟨⟩
        exact List.mem_pair.mpr (.inr rfl)
  | unreadable status reason =>
      refine ⟨fun hmem => ?_, nofun⟩
      rcases List.mem_pair.mp hmem with hmem | hmem <;> cases hmem
  | _ =>
      refine ⟨fun hmem => ?_, nofun⟩
      cases List.mem_singleton.mp hmem

theorem authFailed_iff (h : Fetched req shape log outcome) :
    outcome = .error .authFailed ↔ EndsDenied log := by
  cases h with
  | transport reason =>
      refine ⟨fun h => (by cases h), ?_⟩
      rintro ⟨asked, status, hlast, -⟩
      cases hlast
  | denied status h => exact ⟨fun _ => ⟨req, status, rfl, h⟩, fun _ => rfl⟩
  | absent status h =>
      refine ⟨fun h => (by cases h), ?_⟩
      rintro ⟨asked, status, hlast, hdenied⟩
      cases hlast
      rw [StatusCode.not_deniesAccess_of_isNotFound h] at hdenied
      cases hdenied
  | refused status text h =>
      refine ⟨fun h => (by cases h), ?_⟩
      rintro ⟨asked, status, hlast, hdenied⟩
      cases hlast
      rw [h] at hdenied
      cases hdenied
  | unreadable status reason =>
      refine ⟨fun h => (by cases h), ?_⟩
      rintro ⟨asked, status, hlast, -⟩
      cases hlast
  | found status content =>
      refine ⟨fun h => (by cases h), ?_⟩
      rintro ⟨asked, status, hlast, -⟩
      cases hlast

/-- The same for what a lookup makes of the outcome. -/
theorem endsDenied_iff {α : Type} (h : Fetched req shape log outcome)
    (convert : Option shape.Content → α) (before : List RegistryExchange) :
    outcome.map convert = .error .authFailed ↔ EndsDenied (before ++ log) := by
  rw [EndsDenied, h.getLast?_append, ← EndsDenied, ← h.authFailed_iff]
  cases outcome with
  | ok content => exact ⟨nofun, nofun⟩
  | error e =>
      constructor
      · rintro ⟨⟩
        rfl
      · rintro ⟨⟩
        rfl

end Fetched

namespace K8sRegistry

variable {registry : K8sRegistry}

theorem returns_fetch {α : Type} {url noun : String} {absent : α}
    {shape : BodyShape} {convert : shape.Content → α}
    {log : List RegistryExchange} {result : Except RegistryError α}
    (h : (registry.fetch url noun absent shape convert).Returns log result) :
    ∃ outcome, Fetched (registry.get url) shape log outcome ∧
      result = outcome.map fun content => content.elim absent convert := by
  obtain ⟨sent, rest, rfl, hsent⟩ := returns_ask_bind.mp h
  cases sent with
  | error reason =>
      obtain ⟨rfl, rfl⟩ := Program.returns_done.mp hsent
      exact ⟨_, .transport reason, rfl⟩
  | ok status =>
      dsimp only at hsent
      split at hsent
      · next hdenied =>
          obtain ⟨rfl, rfl⟩ := Program.returns_done.mp hsent
          exact ⟨_, .denied status hdenied, rfl⟩
      · next hallowed =>
          have hallowed : status.deniesAccess = false := by
            simpa [StatusCode.deniesAccess] using hallowed
          split at hsent
          · next habsent =>
              obtain ⟨rfl, rfl⟩ := Program.returns_done.mp hsent
              exact ⟨_, .absent status habsent, rfl⟩
          · split at hsent
            · obtain ⟨rfl, rfl⟩ := Program.returns_done.mp hsent
              exact ⟨_, .refused status _ hallowed, rfl⟩
            · obtain ⟨first, body, last, rfl, hbody, hlast⟩ :=
                Program.returns_bind.mp hsent
              obtain ⟨read, rfl, rfl⟩ := returns_readBody.mp hbody
              cases read with
              | error reason =>
                  obtain ⟨rfl, rfl⟩ := Program.returns_done.mp hlast
                  exact ⟨_, .unreadable status reason, rfl⟩
              | ok content =>
                  obtain ⟨rfl, rfl⟩ := Program.returns_done.mp hlast
                  exact ⟨_, .found status content, rfl⟩

/-! ## A whole lookup -/

/-- The three requests a lookup may send, in order. -/
def lookupRequests (registry : K8sRegistry) (serviceId : String) :
    List RegistryRequest :=
  let ns := registry.namespaceOrDefault
  [registry.get (registry.serviceUrl ns serviceId),
    registry.get (registry.endpointUrl ns serviceId),
    registry.get (registry.endpointSlicesListUrl ns serviceId)]

/-- The filter of the Service that was read; nothing is filtered when there is
no such Service. -/
def ReadFilter (log : List RegistryExchange) (filter : ServiceTcpFilter) :
    Prop :=
  (∃ svc, ⟨.json .k8sService, .ok svc⟩ ∈ log ∧
    filter = .fromServicePorts (K8sService.spec svc).ports) ∨
  filter = {} ∧ ∀ body, ⟨.json .k8sService, body⟩ ∉ log

/-- The entries of the core Endpoints, or those of the EndpointSlices when the
former have no backend. -/
def ReadEntries (log : List RegistryExchange) (filter : ServiceTcpFilter)
    (entries : List (String × SlicePort)) : Prop :=
  (∃ endpoints, ⟨.json .k8sEndpoints, .ok endpoints⟩ ∈ log ∧
    entries = K8sEndpoints.entries endpoints ∧
    filter.backends entries ≠ []) ∨
  (∀ endpoints, ⟨.json .k8sEndpoints, .ok endpoints⟩ ∈ log →
      filter.backends (K8sEndpoints.entries endpoints) = []) ∧
    ((∃ list, ⟨.json .endpointSliceList, .ok list⟩ ∈ log ∧
      entries = EndpointSliceList.entries list) ∨
    entries = [] ∧ ∀ body, ⟨.json .endpointSliceList, body⟩ ∉ log)

/-- A lookup that went on to the Endpoints, with what it has found so far. -/
structure AfterService (registry : K8sRegistry) (serviceId : String)
    (first second : List RegistryExchange) (filter : ServiceTcpFilter)
    (core : Except RegistryError (Option K8sEndpoints)) : Prop where
  service : ∃ svc, Fetched (registry.get (registry.serviceUrl
      registry.namespaceOrDefault serviceId)) .k8sService first (.ok svc) ∧
    filter = svc.elim {} fun svc =>
      .fromServicePorts (K8sService.spec svc).ports
  endpoints : Fetched (registry.get (registry.endpointUrl
    registry.namespaceOrDefault serviceId)) .k8sEndpoints second core

/-- The instances of the core Endpoints, none when these are absent. -/
def coreInstances (filter : ServiceTcpFilter)
    (core : Option K8sEndpoints) : List ServiceInstance :=
  core.elim [] fun endpoints => endpointsToInstances endpoints filter

def sliceInstances (filter : ServiceTcpFilter)
    (slices : Option EndpointSliceList) : List ServiceInstance :=
  slices.elim [] fun list => endpointSlicesToInstances list filter

/-- The request for the Service fails, and no other is sent. -/
def ServiceFailed (registry : K8sRegistry) (serviceId : String)
    (log : List RegistryExchange)
    (result : Except RegistryError (List ServiceInstance)) : Prop :=
  ∃ e, Fetched (registry.get (registry.serviceUrl
      registry.namespaceOrDefault serviceId)) .k8sService log (.error e) ∧
    result = .error e

/-- The request for the Endpoints is the last: it fails, or they have an
instance. -/
def EndpointsDecide (registry : K8sRegistry) (serviceId : String)
    (log : List RegistryExchange)
    (result : Except RegistryError (List ServiceInstance)) : Prop :=
  ∃ first second filter core, AfterService registry serviceId first second
      filter core ∧ log = first ++ second ∧
    ((∃ e, core = .error e ∧ result = .error e) ∨
    ∃ found, core = .ok found ∧ coreInstances filter found ≠ [] ∧
      result = .ok (coreInstances filter found))

/-- The Endpoints have no instance, and the EndpointSlices are asked for. -/
def SlicesDecide (registry : K8sRegistry) (serviceId : String)
    (log : List RegistryExchange)
    (result : Except RegistryError (List ServiceInstance)) : Prop :=
  ∃ first second filter found third slices,
    AfterService registry serviceId first second filter (.ok found) ∧
    log = first ++ (second ++ third) ∧ coreInstances filter found = [] ∧
    Fetched (registry.get (registry.endpointSlicesListUrl
      registry.namespaceOrDefault serviceId)) .endpointSliceList third
      slices ∧
    result = slices.map (sliceInstances filter)

theorem lookup_cases {serviceId : String} {log : List RegistryExchange}
    {result : Except RegistryError (List ServiceInstance)}
    (h : (registry.getHealthyInstances serviceId).Returns log result) :
    registry.ServiceFailed serviceId log result ∨
      registry.EndpointsDecide serviceId log result ∨
      registry.SlicesDecide serviceId log result := by
  obtain ⟨first, filter, rest, rfl, hfilter, hrest⟩ :=
    Program.returns_bind.mp h
  obtain ⟨svc, hservice, rfl⟩ := returns_fetch hfilter
  cases svc with
  | error e =>
      obtain ⟨rfl, rfl⟩ := Program.returns_done.mp hrest
      exact .inl ⟨e, by simpa using hservice, rfl⟩
  | ok svc =>
      obtain ⟨second, core, last, rfl, hcore, hlast⟩ :=
        Program.returns_bind.mp hrest
      obtain ⟨endpoints, hendpoints, rfl⟩ := returns_fetch hcore
      have hafter := AfterService.mk ⟨svc, hservice, rfl⟩ hendpoints
      cases endpoints with
      | error e =>
          obtain ⟨rfl, rfl⟩ := Program.returns_done.mp hlast
          exact .inr (.inl ⟨first, second, _, _, hafter, by simp,
            .inl ⟨e, rfl, rfl⟩⟩)
      | ok found =>
          dsimp only [Except.map] at hlast
          split at hlast
          · next hnonempty =>
              obtain ⟨rfl, rfl⟩ := Program.returns_done.mp hlast
              refine .inr (.inl ⟨first, second, _, _, hafter, by simp,
                .inr ⟨found, rfl, ?_, rfl⟩⟩)
              change (!(coreInstances _ found).isEmpty) = true at hnonempty
              simpa using hnonempty
          · next hempty =>
              obtain ⟨slices, hslices, hresult⟩ := returns_fetch hlast
              refine .inr (.inr ⟨first, second, _, found, last, slices, hafter,
                rfl, ?_, hslices, hresult⟩)
              change ¬ (!(coreInstances _ found).isEmpty) = true at hempty
              simpa using hempty

theorem requestsOf_append (first second : List RegistryExchange) :
    requestsOf (first ++ second) = requestsOf first ++ requestsOf second :=
  List.filterMap_append

theorem coreInstances_eq (filter : ServiceTcpFilter)
    (core : Option K8sEndpoints) :
    coreInstances filter core =
      (filter.backends (core.elim [] K8sEndpoints.entries)).map .ofBackend := by
  cases core with
  | none => rfl
  | some endpoints => exact endpointsToInstances_eq endpoints filter

theorem sliceInstances_eq (filter : ServiceTcpFilter)
    (slices : Option EndpointSliceList) :
    sliceInstances filter slices =
      (filter.backends
        (slices.elim [] EndpointSliceList.entries)).map .ofBackend := by
  cases slices with
  | none => rfl
  | some list => exact endpointSlicesToInstances_eq list filter

namespace AfterService

variable {serviceId : String} {first second : List RegistryExchange}
  {filter : ServiceTcpFilter}
  {core : Except RegistryError (Option K8sEndpoints)}

theorem requestsOf_eq (h : AfterService registry serviceId first second filter
      core) :
    requestsOf (first ++ second) =
      (registry.lookupRequests serviceId).take 2 := by
  obtain ⟨svc, hservice, -⟩ := h.service
  rw [requestsOf_append, hservice.requestsOf_eq, h.endpoints.requestsOf_eq]
  rfl

theorem readFilter (h : AfterService registry serviceId first second filter
      core) (third : List RegistryExchange)
    (hthird : ∀ body, ⟨.json .k8sService, body⟩ ∉ third) :
    ReadFilter (first ++ (second ++ third)) filter := by
  obtain ⟨svc, hservice, rfl⟩ := h.service
  cases svc with
  | some svc =>
      refine .inl ⟨svc, ?_, rfl⟩
      exact List.mem_append_left _ (hservice.mem_iff_found.mpr rfl)
  | none =>
      refine .inr ⟨rfl, fun body hmem => ?_⟩
      rcases List.mem_append.mp hmem with hmem | hmem
      · exact (hservice.of_mem hmem).2 rfl
      · rcases List.mem_append.mp hmem with hmem | hmem
        · cases (h.endpoints.of_mem hmem).1
        · exact hthird body hmem

/-- Only the second request reads core Endpoints. -/
theorem mem_endpoints (h : AfterService registry serviceId first second filter
      core) (third : List RegistryExchange)
    (hthird : ∀ body, ⟨.json .k8sEndpoints, body⟩ ∉ third)
    {endpoints : K8sEndpoints} :
    ⟨.json .k8sEndpoints, .ok endpoints⟩ ∈ first ++ (second ++ third) ↔
      core = .ok (some endpoints) := by
  obtain ⟨svc, hservice, -⟩ := h.service
  have hfirst : ⟨.json .k8sEndpoints, .ok endpoints⟩ ∉ first := fun hmem => by
    cases (hservice.of_mem hmem).1
  rw [List.mem_append, List.mem_append]
  exact ⟨fun hmem => h.endpoints.mem_iff_found.mp
      ((hmem.resolve_left hfirst).resolve_right (hthird _)),
    fun hcore => .inr (.inl (h.endpoints.mem_iff_found.mpr hcore))⟩

/-- Core Endpoints with a backend are the entries that were read. -/
theorem readEntries_core {found : Option K8sEndpoints}
    (h : AfterService registry serviceId first second filter (.ok found))
    (hfound : coreInstances filter found ≠ []) :
    ReadFilter (first ++ second) filter ∧
      ReadEntries (first ++ second) filter
        (found.elim [] K8sEndpoints.entries) := by
  rw [coreInstances_eq] at hfound
  cases found with
  | none => exact absurd rfl hfound
  | some endpoints =>
      have hfilter := h.readFilter [] (by simp)
      have hmem := (h.mem_endpoints [] (by simp)).mpr rfl
      rw [List.append_nil] at hfilter hmem
      exact ⟨hfilter, .inl ⟨endpoints, hmem, rfl, by simpa using hfound⟩⟩

/-- Without such a backend the entries are those of the EndpointSlices. -/
theorem readEntries_slices {found : Option K8sEndpoints}
    (h : AfterService registry serviceId first second filter (.ok found))
    (hempty : coreInstances filter found = []) {req : RegistryRequest}
    {third : List RegistryExchange} {slices : Option EndpointSliceList}
    (hslices : Fetched req .endpointSliceList third (.ok slices)) :
    ReadFilter (first ++ (second ++ third)) filter ∧
      ReadEntries (first ++ (second ++ third)) filter
        (slices.elim [] EndpointSliceList.entries) := by
  have hthird {shape : BodyShape} (hshape : shape ≠ .endpointSliceList)
      (body) : ⟨.json shape, body⟩ ∉ third := fun hmem =>
    hshape (hslices.of_mem hmem).1
  refine ⟨h.readFilter third (hthird (by decide)), .inr ⟨?_, ?_⟩⟩
  · intro endpoints hmem
    have hcore := (h.mem_endpoints third (hthird (by decide))).mp hmem
    cases hcore
    rw [coreInstances_eq] at hempty
    simpa using hempty
  · cases slices with
    | some list =>
        refine .inl ⟨list, ?_, rfl⟩
        have hmem := hslices.mem_iff_found.mpr rfl
        exact List.mem_append_right _ (List.mem_append_right _ hmem)
    | none =>
        obtain ⟨svc, hservice, -⟩ := h.service
        refine .inr ⟨rfl, fun body hmem => ?_⟩
        rcases List.mem_append.mp hmem with hmem | hmem
        · cases (hservice.of_mem hmem).1
        · rcases List.mem_append.mp hmem with hmem | hmem
          · cases (h.endpoints.of_mem hmem).1
          · exact (hslices.of_mem hmem).2 rfl

/-- The EndpointSlices are the last thing asked for. -/
theorem requestsOf_slices (h : AfterService registry serviceId first second
      filter core) {third : List RegistryExchange}
    {slices : Except RegistryError (Option EndpointSliceList)}
    (hslices : Fetched (registry.get (registry.endpointSlicesListUrl
      registry.namespaceOrDefault serviceId)) .endpointSliceList third
      slices) :
    requestsOf (first ++ (second ++ third)) =
      registry.lookupRequests serviceId := by
  rw [← List.append_assoc, requestsOf_append, h.requestsOf_eq,
    hslices.requestsOf_eq]
  rfl

end AfterService

section Stops

variable {serviceId : String} {log : List RegistryExchange}
  {result : Except RegistryError (List ServiceInstance)}

theorem ServiceFailed.requestsOf_eq
    (h : registry.ServiceFailed serviceId log result) :
    requestsOf log = (registry.lookupRequests serviceId).take 1 := by
  obtain ⟨e, hservice, -⟩ := h
  exact hservice.requestsOf_eq

theorem EndpointsDecide.requestsOf_eq
    (h : registry.EndpointsDecide serviceId log result) :
    requestsOf log = (registry.lookupRequests serviceId).take 2 := by
  obtain ⟨first, second, filter, core, hafter, rfl, -⟩ := h
  exact hafter.requestsOf_eq

theorem SlicesDecide.requestsOf_eq
    (h : registry.SlicesDecide serviceId log result) :
    requestsOf log = registry.lookupRequests serviceId := by
  obtain ⟨first, second, filter, found, third, slices, hafter, rfl, -, hslices,
    -⟩ := h
  exact hafter.requestsOf_slices hslices

theorem requestsOf_prefix
    (h : (registry.getHealthyInstances serviceId).Returns log result) :
    requestsOf log <+: registry.lookupRequests serviceId := by
  rcases lookup_cases h with hfailed | hdecide | hslices
  · rw [hfailed.requestsOf_eq]
    exact List.take_prefix _ _
  · rw [hdecide.requestsOf_eq]
    exact List.take_prefix _ _
  · rw [hslices.requestsOf_eq]

/-- The number of requests says which of them was the last. -/
theorem lookup_stops
    (h : (registry.getHealthyInstances serviceId).Returns log result) :
    (requestsOf log = (registry.lookupRequests serviceId).take 1 ↔
      registry.ServiceFailed serviceId log result) ∧
    (requestsOf log = (registry.lookupRequests serviceId).take 2 ↔
      registry.EndpointsDecide serviceId log result) ∧
    (requestsOf log = registry.lookupRequests serviceId ↔
      registry.SlicesDecide serviceId log result) := by
  refine ⟨⟨fun hsent => ?_, ServiceFailed.requestsOf_eq⟩,
    ⟨fun hsent => ?_, EndpointsDecide.requestsOf_eq⟩,
    ⟨fun hsent => ?_, SlicesDecide.requestsOf_eq⟩⟩
  all_goals
    rcases lookup_cases h with hservice | hendpoints | hslices
  · exact hservice
  · exact nomatch hsent.symm.trans hendpoints.requestsOf_eq
  · exact nomatch hsent.symm.trans hslices.requestsOf_eq
  · exact nomatch hsent.symm.trans hservice.requestsOf_eq
  · exact hendpoints
  · exact nomatch hsent.symm.trans hslices.requestsOf_eq
  · exact nomatch hsent.symm.trans hservice.requestsOf_eq
  · exact nomatch hsent.symm.trans hendpoints.requestsOf_eq
  · exact hslices

end Stops

/-! ## Endpoints without a Service -/

def clusterRegistry : K8sRegistry where
  config :=
    { namespace_ := none
      kubeconfigPath := none
      kubeconfigContext := none
      auth := none }
  bearerToken := some "token"

def orderEndpoints : K8sEndpoints where
  subsets := some [
    { addresses := some [⟨"10.0.0.1"⟩]
      ports := some [⟨8080, some "http", some "TCP"⟩] }]

def selectorlessLog : List RegistryExchange :=
  let ns := clusterRegistry.namespaceOrDefault
  [⟨.send (clusterRegistry.get (clusterRegistry.serviceUrl ns "orders")),
      .ok ⟨404, "404 Not Found"⟩⟩,
    ⟨.send (clusterRegistry.get (clusterRegistry.endpointUrl ns "orders")),
      .ok ⟨200, "200 OK"⟩⟩,
    ⟨.json .k8sEndpoints, .ok orderEndpoints⟩]

end K8sRegistry

end ServiceRouter
