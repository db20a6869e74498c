import ServiceRouter.Registry.EndpointFlattening

/-!
# The backends of a Service

The cluster derives the endpoints of a Service from its ports: a port entry has
the name and the protocol of its Service port and the number that the target
stands for.  The filter compares the name of an entry, which is the name of the
Service port, with the names that targets have.
-/

namespace ServiceRouter

open Foundation

/-! ## Services and the endpoints derived from them -/

/-- A number of sixteen bits or a name that is not empty. -/
def TargetPort.Valid : TargetPort → Prop
  | int v => v < 2 ^ 16
  | name n => n ≠ ""

instance : (target : TargetPort) → Decidable target.Valid
  | .int v => inferInstanceAs (Decidable (v < 2 ^ 16))
  | .name n => inferInstanceAs (Decidable (n ≠ ""))

/-- An entry of `spec.ports`, with the name that the registry does not read. -/
structure ServicePort where
  name : Option String
  protocol : Option String
  target : TargetPort
  valid : target.Valid

def ServicePort.toK8s (p : ServicePort) : K8sServicePort where
  targetPort := some p.target
  protocol := p.protocol

/-- A name may stand for a different number on every address. -/
inductive TargetPort.ResolvesTo : TargetPort → Nat → Prop where
  | int (v : Nat) : ResolvesTo (.int v) v
  | name (n : String) (v : Nat) (h : v < 2 ^ 16) : ResolvesTo (.name n) v

def ServicePort.Yields (p : ServicePort) (entry : K8sEndpointPort) : Prop :=
  entry.name = p.name ∧ entry.protocol = p.protocol ∧
    p.target.ResolvesTo entry.port

def DerivedFrom (ports : List ServicePort) (endpoints : K8sEndpoints) : Prop :=
  ∀ subset ∈ endpoints.subsets.getD [], ∀ entry ∈ subset.ports.getD [],
    ∃ p ∈ ports, p.Yields entry

/-- The endpoints have the port entry at the address. -/
def K8sEndpoints.Lists (endpoints : K8sEndpoints) (ip : String)
    (entry : K8sEndpointPort) : Prop :=
  ∃ subset ∈ endpoints.subsets.getD [],
    (∃ address ∈ subset.addresses.getD [], address.ip = ip) ∧
      entry ∈ subset.ports.getD []

/-- An address with the resolved number of a port that is not UDP or SCTP. -/
def IsTcpBackend (ports : List ServicePort) (endpoints : K8sEndpoints)
    (backend : String × Nat) : Prop :=
  ∃ entry, endpoints.Lists backend.1 entry ∧ entry.port = backend.2 ∧
    ∃ p ∈ ports, p.Yields entry ∧
      protocolExcludedFromHttpProxy p.protocol = false

/-- A port of the Service that is not UDP or SCTP has the number of the entry
as its target, or the name of the entry. -/
def Targeted (ports : List ServicePort) (entry : K8sEndpointPort) : Prop :=
  ∃ p ∈ ports, protocolExcludedFromHttpProxy p.protocol = false ∧
    (p.target = .int entry.port ∨
      ∃ n, p.target = .name n ∧ entry.name = some n)

def discoveredBackends (ports : List ServicePort) (endpoints : K8sEndpoints) :
    List (String × Nat) :=
  (endpointsToInstances endpoints
    (.fromServicePorts (ports.map ServicePort.toK8s))).map
      fun inst => (inst.host, inst.port)

/-! ## What the filter allows -/

/-- The targets of a Service are valid, so none of them is left out. -/
private theorem exists_target_iff {ports : List ServicePort} {t : TargetPort}
    {checked : Prop} (hvalid : t.Valid → checked) :
    (∃ p ∈ ports.map ServicePort.toK8s, checked ∧
        protocolExcludedFromHttpProxy p.protocol = false ∧
        p.targetPort = some t) ↔
      ∃ p ∈ ports, protocolExcludedFromHttpProxy p.protocol = false ∧
        p.target = t := by
  simp only [List.mem_map, exists_exists_and_eq_and]
  refine exists_congr fun p => and_congr_right fun _ => ?_
  constructor
  · rintro ⟨_, hprotocol, htarget⟩
    exact ⟨hprotocol, Option.some.inj htarget⟩
  · rintro ⟨hprotocol, rfl⟩
    exact ⟨hvalid p.valid, hprotocol, rfl⟩

theorem allows_fromServicePorts {ports : List ServicePort}
    (hsome : ∃ p ∈ ports, protocolExcludedFromHttpProxy p.protocol = false)
    (entry : K8sEndpointPort) :
    (ServiceTcpFilter.fromServicePorts
        (ports.map ServicePort.toK8s)).allows entry.port entry.name = true ↔
      Targeted ports entry := by
  have hnumeric (v : Nat) : v ∈ (ServiceTcpFilter.fromServicePorts
      (ports.map ServicePort.toK8s)).numericTargets ↔
      ∃ p ∈ ports, protocolExcludedFromHttpProxy p.protocol = false ∧
        p.target = .int v :=
    ServiceTcpFilter.mem_numericTargets_fromServicePorts.trans
      (exists_target_iff id)
  have hnamed (n : String) : n ∈ (ServiceTcpFilter.fromServicePorts
      (ports.map ServicePort.toK8s)).namedTargets ↔
      ∃ p ∈ ports, protocolExcludedFromHttpProxy p.protocol = false ∧
        p.target = .name n :=
    ServiceTcpFilter.mem_namedTargets_fromServicePorts.trans
      (exists_target_iff id)
  generalize ServiceTcpFilter.fromServicePorts
    (ports.map ServicePort.toK8s) = filter at hnumeric hnamed ⊢
  have hselects : ¬ (filter.numericTargets = ∅ ∧ filter.namedTargets = ∅) := by
    rintro ⟨hnumbers, hnames⟩
    obtain ⟨p, hp, hprotocol⟩ := hsome
    cases htarget : p.target with
    | int v =>
        have hmem := (hnumeric v).mpr ⟨p, hp, hprotocol, htarget⟩
        simp [hnumbers] at hmem
    | name n =>
        have hmem := (hnamed n).mpr ⟨p, hp, hprotocol, htarget⟩
        simp [hnames] at hmem
  have hsplit : Targeted ports entry ↔ entry.port ∈ filter.numericTargets ∨
      ∃ n, entry.name = some n ∧ n ∈ filter.namedTargets := by
    simp only [hnumeric, hnamed, Targeted]
    grind
  rw [hsplit, ServiceTcpFilter.allows, if_neg hselects]
  by_cases hmem : entry.port ∈ filter.numericTargets
  · simp [hmem]
  · simp [hmem, Option.any_eq_true]

/-! ## What is returned -/

theorem mem_entries_iff {endpoints : K8sEndpoints} {ip : String}
    {port : SlicePort} :
    (ip, port) ∈ endpoints.entries ↔
      ∃ entry, endpoints.Lists ip entry ∧ entry.toSlicePort = port := by
  simp only [K8sEndpoints.entries, K8sEndpoints.Lists, List.mem_flatMap,
    List.mem_map, Prod.mk.injEq]
  grind

theorem backend?_toSlicePort (tcpFilter : ServiceTcpFilter) (ip : String)
    (entry : K8sEndpointPort) (backend : String × Nat) :
    tcpFilter.backend? (ip, entry.toSlicePort) = some backend ↔
      ip = backend.1 ∧ entry.port = backend.2 ∧
        protocolExcludedFromHttpProxy entry.protocol = false ∧
        tcpFilter.allows entry.port entry.name = true := by
  cases hprotocol : protocolExcludedFromHttpProxy entry.protocol <;>
    cases hallows : tcpFilter.allows entry.port entry.name <;>
      simp [ServiceTcpFilter.backend?, SlicePort.isUdpOrSctp_eq,
        K8sEndpointPort.toSlicePort, hprotocol, hallows, Prod.ext_iff]

theorem mem_discoveredBackends_iff {ports : List ServicePort}
    {endpoints : K8sEndpoints} {backend : String × Nat} :
    backend ∈ discoveredBackends ports endpoints ↔
      ∃ entry, endpoints.Lists backend.1 entry ∧ entry.port = backend.2 ∧
        protocolExcludedFromHttpProxy entry.protocol = false ∧
        (ServiceTcpFilter.fromServicePorts (ports.map
          ServicePort.toK8s)).allows entry.port entry.name = true := by
  rw [discoveredBackends, endpointsToInstances_eq, List.map_map]
  simp only [ServiceInstance.ofBackend, Function.comp_def,
    ServiceTcpFilter.backends, List.map_id', Prod.mk.eta, mem_keepFirst_id,
    List.mem_filterMap]
  constructor
  · rintro ⟨⟨ip, port⟩, hmem, hbackend⟩
    obtain ⟨entry, hlists, rfl⟩ := mem_entries_iff.mp hmem
    obtain ⟨rfl, hrest⟩ := (backend?_toSlicePort _ _ _ _).mp hbackend
    exact ⟨entry, hlists, hrest⟩
  · rintro ⟨entry, hlists, hrest⟩
    exact ⟨(backend.1, entry.toSlicePort),
      mem_entries_iff.mpr ⟨entry, hlists, rfl⟩,
      (backend?_toSlicePort _ _ _ _).mpr ⟨rfl, hrest⟩⟩

theorem DerivedFrom.yields {ports : List ServicePort}
    {endpoints : K8sEndpoints} (hderived : DerivedFrom ports endpoints)
    {ip : String} {entry : K8sEndpointPort}
    (hlists : endpoints.Lists ip entry) : ∃ p ∈ ports, p.Yields entry := by
  obtain ⟨subset, hsubset, _, hentry⟩ := hlists
  exact hderived subset hsubset entry hentry

/-- A listed entry that is not UDP or SCTP has a port with its protocol, so
the filter is not the empty one that allows all. -/
theorem DerivedFrom.allows_iff {ports : List ServicePort}
    {endpoints : K8sEndpoints} (hderived : DerivedFrom ports endpoints)
    {ip : String} {entry : K8sEndpointPort}
    (hlists : endpoints.Lists ip entry)
    (hprotocol : protocolExcludedFromHttpProxy entry.protocol = false) :
    (ServiceTcpFilter.fromServicePorts (ports.map
      ServicePort.toK8s)).allows entry.port entry.name = true ↔
      Targeted ports entry := by
  obtain ⟨p, hp, hyields⟩ := hderived.yields hlists
  have hopen : protocolExcludedFromHttpProxy p.protocol = false := by
    rw [← hyields.2.1, hprotocol]
  exact allows_fromServicePorts ⟨p, hp, hopen⟩ entry

/-- The backends as the entries have them. -/
theorem isTcpBackend_iff {ports : List ServicePort} {endpoints : K8sEndpoints}
    (hderived : DerivedFrom ports endpoints) {backend : String × Nat} :
    IsTcpBackend ports endpoints backend ↔
      ∃ entry, endpoints.Lists backend.1 entry ∧ entry.port = backend.2 ∧
        protocolExcludedFromHttpProxy entry.protocol = false := by
  constructor
  · rintro ⟨entry, hlists, hport, p, _, hyields, hprotocol⟩
    exact ⟨entry, hlists, hport, by rw [hyields.2.1, hprotocol]⟩
  · rintro ⟨entry, hlists, hport, hprotocol⟩
    obtain ⟨p, hp, hyields⟩ := hderived.yields hlists
    exact ⟨entry, hlists, hport, p, hp, hyields, by
      rw [← hyields.2.1, hprotocol]⟩

/-- Nothing but backends is returned, and each backend is returned exactly
when an entry for it is targeted by number or has the name of a target. -/
theorem discoveredBackends_exact_iff {ports : List ServicePort}
    {endpoints : K8sEndpoints} (hderived : DerivedFrom ports endpoints) :
    (∀ backend, backend ∈ discoveredBackends ports endpoints ↔
        IsTcpBackend ports endpoints backend) ↔
      ∀ ip entry, endpoints.Lists ip entry →
        protocolExcludedFromHttpProxy entry.protocol = false →
        ∃ other, endpoints.Lists ip other ∧ other.port = entry.port ∧
          protocolExcludedFromHttpProxy other.protocol = false ∧
          Targeted ports other := by
  constructor
  · intro hexact ip entry hlists hprotocol
    have hbackend : IsTcpBackend ports endpoints (ip, entry.port) :=
      (isTcpBackend_iff hderived).mpr ⟨entry, hlists, rfl, hprotocol⟩
    obtain ⟨other, hother, hport, hopen, hallowed⟩ :=
      mem_discoveredBackends_iff.mp ((hexact (ip, entry.port)).mpr hbackend)
    exact ⟨other, hother, hport, hopen,
      (hderived.allows_iff hother hopen).mp hallowed⟩
  · intro hnamed backend
    rw [mem_discoveredBackends_iff, isTcpBackend_iff hderived]
    constructor
    · rintro ⟨entry, hlists, hport, hprotocol, _⟩
      exact ⟨entry, hlists, hport, hprotocol⟩
    · rintro ⟨entry, hlists, hport, hprotocol⟩
      obtain ⟨other, hother, hsame, hopen, htargeted⟩ :=
        hnamed backend.1 entry hlists hprotocol
      exact ⟨other, hother, hsame.trans hport, hopen,
        (hderived.allows_iff hother hopen).mpr htargeted⟩

/-- One address with one entry, on port 8443. -/
def ServicePort.endpoints (p : ServicePort) : K8sEndpoints where
  subsets := some [{
    addresses := some [{ ip := "10.0.0.1" }]
    ports := some [{ port := 8443, name := p.name, protocol := p.protocol }] }]

theorem ServicePort.lists_endpoints {p : ServicePort} {ip : String}
    {entry : K8sEndpointPort} (h : p.endpoints.Lists ip entry) :
    entry = { port := 8443, name := p.name, protocol := p.protocol } := by
  obtain ⟨subset, hsubset, _, hentry⟩ := h
  simp only [endpoints, Option.getD_some, List.mem_singleton] at hsubset
  subst hsubset
  simpa using hentry

theorem ServicePort.derivedFrom_endpoints {p : ServicePort}
    (h : p.target.ResolvesTo 8443) : DerivedFrom [p] p.endpoints := by
  intro subset hsubset entry hentry
  simp only [endpoints, Option.getD_some, List.mem_singleton] at hsubset
  subst hsubset
  simp only [Option.getD_some, List.mem_singleton] at hentry
  subst hentry
  exact ⟨p, List.mem_singleton_self _, rfl, rfl, h⟩

def httpsPort : ServicePort where
  name := some "https"
  protocol := some "TCP"
  target := .name "https"
  valid := by decide

/-- With one name for the port and its target the backend is found. -/
theorem discoveredBackends_exact_at_https :
    DerivedFrom [httpsPort] httpsPort.endpoints ∧
      ∀ backend, backend ∈ discoveredBackends [httpsPort]
          httpsPort.endpoints ↔
        IsTcpBackend [httpsPort] httpsPort.endpoints backend := by
  have hderived := ServicePort.derivedFrom_endpoints (p := httpsPort)
    (.name "https" 8443 (by decide))
  refine ⟨hderived, (discoveredBackends_exact_iff hderived).mpr ?_⟩
  intro ip entry hlists hprotocol
  refine ⟨entry, hlists, rfl, hprotocol, httpsPort,
    List.mem_singleton_self _, by decide, .inr ⟨"https", rfl, ?_⟩⟩
  rw [ServicePort.lists_endpoints hlists]
  rfl

def webPort : ServicePort where
  name := some "web"
  protocol := some "TCP"
  target := .name "http"
  valid := by decide

/-- A port with another name than its target loses its backend. -/
theorem discoveredBackends_drops_web :
    DerivedFrom [webPort] webPort.endpoints ∧
      IsTcpBackend [webPort] webPort.endpoints ("10.0.0.1", 8443) ∧
      discoveredBackends [webPort] webPort.endpoints = [] := by
  have hderived := ServicePort.derivedFrom_endpoints (p := webPort)
    (.name "http" 8443 (by decide))
  refine ⟨hderived, (isTcpBackend_iff hderived).mpr ⟨_, ⟨_,
    List.mem_singleton_self _, ⟨_, List.mem_singleton_self _, rfl⟩,
    List.mem_singleton_self _⟩, rfl, by decide⟩, by decide⟩

end ServiceRouter
