import ServiceRouter.Registry.Kubernetes

/-!
# What flattening returns

Both forms of endpoints list port entries at addresses.  The instances returned
are the backends these stand for in that order, each at its first occurrence:
the text `host:port` identifies a backend, since no digit is a colon.
-/

namespace ServiceRouter

open Foundation

/-! ## Port entries at addresses -/

def K8sEndpointPort.toSlicePort (port : K8sEndpointPort) : SlicePort where
  port := some port.port
  name := port.name
  protocol := port.protocol

def K8sEndpoints.entries (endpoints : K8sEndpoints) :
    List (String × SlicePort) :=
  (endpoints.subsets.getD []).flatMap fun subset =>
    (subset.addresses.getD []).flatMap fun address =>
      (subset.ports.getD []).map fun port => (address.ip, port.toSlicePort)

/-- Neither not ready nor not serving. -/
def SliceEndpoint.inService (ep : SliceEndpoint) : Bool :=
  ep.conditions.ready ≠ some false ∧ ep.conditions.serving ≠ some false

def EndpointSliceList.entries (list : EndpointSliceList) :
    List (String × SlicePort) :=
  list.items.flatMap fun slice =>
    (slice.endpoints.filter SliceEndpoint.inService).flatMap fun ep =>
      ep.addresses.flatMap fun addr => slice.ports.map fun port => (addr, port)

/-- UDP or SCTP in any letter case. -/
def SlicePort.isUdpOrSctp (port : SlicePort) : Bool :=
  port.protocol.any fun p =>
    p.toList.map Char.toUpper == "UDP".toList ||
      p.toList.map Char.toUpper == "SCTP".toList

theorem SlicePort.isUdpOrSctp_eq (port : SlicePort) :
    port.isUdpOrSctp = protocolExcludedFromHttpProxy port.protocol := by
  have hcase {name : String} (hupper : name.toList.map Char.toUpper =
      name.toList) (p : String) :
      eqIgnoreAsciiCase p name = true ↔
        p.toList.map Char.toUpper = name.toList := by
    rw [eqIgnoreAsciiCase_iff]
    constructor
    · intro h
      have h' := congrArg (List.map Char.toUpper) h
      simpa [Function.comp_def, hupper] using h'
    · intro h
      have h' := congrArg (List.map Char.toLower) h
      simpa [Function.comp_def] using h'
  unfold SlicePort.isUdpOrSctp protocolExcludedFromHttpProxy
  cases port.protocol with
  | none => rfl
  | some p =>
      rw [Bool.eq_iff_iff, Option.any_some, Option.any_some, Bool.or_eq_true,
        Bool.or_eq_true, beq_iff_eq, beq_iff_eq, hcase (by decide),
        hcase (by decide)]

/-- The address and the number of an entry that has one, unless its protocol is
UDP or SCTP or the filter does not allow it. -/
def ServiceTcpFilter.backend? (tcpFilter : ServiceTcpFilter)
    (entry : String × SlicePort) : Option (String × Nat) :=
  match entry.2.port with
  | none => none
  | some port =>
      if !entry.2.isUdpOrSctp && tcpFilter.allows port entry.2.name
      then some (entry.1, port)
      else none

/-- The backends of the entries in order, each at its first occurrence. -/
def ServiceTcpFilter.backends (tcpFilter : ServiceTcpFilter)
    (entries : List (String × SlicePort)) : List (String × Nat) :=
  keepFirst id (entries.filterMap tcpFilter.backend?)

def ServiceInstance.ofBackend (backend : String × Nat) : ServiceInstance where
  host := backend.1
  port := backend.2

/-- One slice for each subset, with one endpoint of unknown readiness for each
address. -/
def K8sEndpoints.toSlices (endpoints : K8sEndpoints) : EndpointSliceList where
  items := (endpoints.subsets.getD []).map fun subset => {
    endpoints := (subset.addresses.getD []).map fun address =>
      { addresses := [address.ip], conditions := {} }
    ports := (subset.ports.getD []).map K8sEndpointPort.toSlicePort }

/-! ## The key -/

theorem hostPort_ofBackend_inj (first second : String × Nat) :
    (ServiceInstance.ofBackend first).hostPort =
        (ServiceInstance.ofBackend second).hostPort ↔ first = second := by
  refine ⟨fun h => ?_, congrArg fun b => (ServiceInstance.ofBackend b).hostPort⟩
  have hchars : first.1.toList ++ ':' :: (toString first.2).toList =
      second.1.toList ++ ':' :: (toString second.2).toList := by
    simpa [ServiceInstance.ofBackend, ServiceInstance.hostPort,
      ← String.toList_inj, toString] using h
  have hcolon (n : Nat) : ':' ∉ (toString n).toList := fun hmem =>
    absurd (isDigit_of_mem_toString hmem) (by decide)
  obtain ⟨hhost, hport⟩ := append_separator_inj (hcolon _) (hcolon _) hchars
  exact Prod.ext (String.toList_inj.mp hhost)
    (toString_nat_injective (String.toList_inj.mp hport))

/-! ## The loops -/

/-- One turn of the innermost loop of either function. -/
def pushEntry (tcpFilter : ServiceTcpFilter) (flattened : Flattened)
    (entry : String × SlicePort) : Flattened :=
  match tcpFilter.backend? entry with
  | some backend =>
      keepUnseen ServiceInstance.hostPort flattened (.ofBackend backend)
  | none => flattened

private theorem foldl_pushEntry_eq (tcpFilter : ServiceTcpFilter)
    (entries : List (String × SlicePort)) (flattened : Flattened) :
    entries.foldl (pushEntry tcpFilter) flattened =
      ((entries.filterMap tcpFilter.backend?).map
        ServiceInstance.ofBackend).foldl
          (keepUnseen ServiceInstance.hostPort) flattened := by
  induction entries generalizing flattened with
  | nil => rfl
  | cons entry entries ih =>
      cases hentry : tcpFilter.backend? entry with
      | none => simp [pushEntry, hentry, ih]
      | some backend => simp [pushEntry, hentry, ih]

theorem pushEntry_of_port_eq_none (tcpFilter : ServiceTcpFilter)
    (flattened : Flattened) (ip : String) {port : SlicePort}
    (hport : port.port = none) :
    pushEntry tcpFilter flattened (ip, port) = flattened := by
  simp only [pushEntry, ServiceTcpFilter.backend?, hport]

/-- An entry with a number runs through both tests and then the key. -/
theorem pushEntry_of_port_eq_some (tcpFilter : ServiceTcpFilter)
    (flattened : Flattened) (ip : String) {port : SlicePort} {number : Nat}
    (hport : port.port = some number) :
    pushEntry tcpFilter flattened (ip, port) =
      if protocolExcludedFromHttpProxy port.protocol then flattened
      else if !tcpFilter.allows number port.name then flattened
      else keepUnseen ServiceInstance.hostPort flattened
        { host := ip, port := number } := by
  rw [← port.isUdpOrSctp_eq]
  cases hprotocol : port.isUdpOrSctp <;>
    cases hallows : tcpFilter.allows number port.name <;>
      simp [pushEntry, ServiceTcpFilter.backend?, hport, hprotocol, hallows,
        ServiceInstance.ofBackend]

theorem foldl_pushEntry (tcpFilter : ServiceTcpFilter)
    (entries : List (String × SlicePort)) :
    (entries.foldl (pushEntry tcpFilter) ([], [])).2 =
      (tcpFilter.backends entries).map ServiceInstance.ofBackend := by
  have hkey (backends : List (String × Nat)) :
      keepFirst (ServiceInstance.hostPort ∘ ServiceInstance.ofBackend)
        backends = keepFirst id backends :=
    keepFirst_congr hostPort_ofBackend_inj backends
  rw [foldl_pushEntry_eq, foldl_keepUnseen_nil, keepFirst_map, hkey]
  rfl

/-- The three nested loops over subsets are one loop over the entries. -/
theorem endpointsToInstances_eq (endpoints : K8sEndpoints)
    (tcpFilter : ServiceTcpFilter) :
    endpointsToInstances endpoints tcpFilter =
      (tcpFilter.backends endpoints.entries).map
        ServiceInstance.ofBackend := by
  have hturn (flattened : Flattened) (address : K8sEndpointAddress)
      (port : K8sEndpointPort) :
      pushEntry tcpFilter flattened (address.ip, port.toSlicePort) =
        if protocolExcludedFromHttpProxy port.protocol then flattened
        else if !tcpFilter.allows port.port port.name then flattened
        else keepUnseen ServiceInstance.hostPort flattened
          { host := address.ip, port := port.port } :=
    pushEntry_of_port_eq_some tcpFilter flattened address.ip rfl
  simp only [← foldl_pushEntry, K8sEndpoints.entries, List.foldl_flatMap,
    List.foldl_map, endpointsToInstances, hturn]

theorem endpointSlicesToInstances_eq (list : EndpointSliceList)
    (tcpFilter : ServiceTcpFilter) :
    endpointSlicesToInstances list tcpFilter =
      (tcpFilter.backends list.entries).map ServiceInstance.ofBackend := by
  rw [← foldl_pushEntry, EndpointSliceList.entries, List.foldl_flatMap]
  refine congrArg Prod.snd (List.foldl_ext _ _ _ fun flattened slice _ => ?_)
  by_cases hempty : slice.ports.isEmpty && slice.endpoints.isEmpty
  · have hnone : slice.endpoints = [] := by
      simp only [Bool.and_eq_true, List.isEmpty_iff] at hempty
      exact hempty.2
    rw [if_pos hempty, hnone]
    rfl
  · rw [if_neg hempty, List.foldl_flatMap, List.foldl_filter]
    refine List.foldl_ext _ _ _ fun flattened ep _ => ?_
    by_cases hdrop : ep.conditions.ready = some false ∨
        ep.conditions.serving = some false
    · rw [if_pos hdrop, if_neg]
      simpa [SliceEndpoint.inService, imp_iff_not_or] using hdrop
    · rw [if_neg hdrop, if_pos, List.foldl_flatMap]
      · refine List.foldl_ext _ _ _ fun flattened addr _ => ?_
        rw [List.foldl_map]
        refine List.foldl_ext _ _ _ fun flattened port _ => ?_
        cases hport : port.port with
        | none => simp [pushEntry_of_port_eq_none _ _ _ hport]
        | some number => simp [pushEntry_of_port_eq_some _ _ _ hport]
      · simpa [SliceEndpoint.inService] using hdrop

theorem entries_toSlices (endpoints : K8sEndpoints) :
    endpoints.toSlices.entries = endpoints.entries := by
  have hkept (addresses : List K8sEndpointAddress) :
      (addresses.map fun address =>
        ({ addresses := [address.ip], conditions := {} } :
          SliceEndpoint)).filter SliceEndpoint.inService =
        addresses.map fun address =>
          { addresses := [address.ip], conditions := {} } := by
    rw [List.filter_eq_self]
    simp [SliceEndpoint.inService]
  simp [K8sEndpoints.toSlices, EndpointSliceList.entries,
    K8sEndpoints.entries, hkept, List.flatMap_map, Function.comp_def]

/-- Either list of endpoints yields its backends in order, each once, and the
two forms of one list of endpoints yield the same. -/
theorem flattening_exact (tcpFilter : ServiceTcpFilter) :
    (∀ endpoints, endpointsToInstances endpoints tcpFilter =
      (tcpFilter.backends endpoints.entries).map ServiceInstance.ofBackend) ∧
    (∀ list, endpointSlicesToInstances list tcpFilter =
      (tcpFilter.backends list.entries).map ServiceInstance.ofBackend) ∧
    ∀ endpoints, endpointSlicesToInstances endpoints.toSlices tcpFilter =
      endpointsToInstances endpoints tcpFilter := by
  refine ⟨fun endpoints => endpointsToInstances_eq endpoints tcpFilter,
    fun list => endpointSlicesToInstances_eq list tcpFilter,
    fun endpoints => ?_⟩
  rw [endpointSlicesToInstances_eq, endpointsToInstances_eq,
    entries_toSlices]

end ServiceRouter
