import Mathlib.Data.Finset.Insert
import ServiceRouter.Foundation.Folds
import ServiceRouter.Foundation.KeepFirst
import ServiceRouter.Registry.Instance

/-!
# The Kubernetes registry

The ports of a Service say which entries of its endpoints may be proxied to.
Both forms in which the cluster lists endpoints are flattened by nested loops
that remember the text `host:port` of what they have returned.
-/

namespace ServiceRouter

open Foundation

/-! ## What the cluster returns -/

inductive TargetPort where
  | int (v : Nat)
  | name (n : String)
  deriving DecidableEq

structure K8sServicePort where
  targetPort : Option TargetPort
  protocol : Option String

structure K8sEndpointAddress where
  ip : String

structure K8sEndpointPort where
  port : Nat
  name : Option String
  protocol : Option String

structure K8sEndpointSubset where
  addresses : Option (List K8sEndpointAddress)
  ports : Option (List K8sEndpointPort)

structure K8sEndpoints where
  subsets : Option (List K8sEndpointSubset)

structure SliceEndpointConditions where
  ready : Option Bool := none
  serving : Option Bool := none

structure SliceEndpoint where
  addresses : List String
  conditions : SliceEndpointConditions

structure SlicePort where
  port : Option Nat
  name : Option String
  protocol : Option String

structure EndpointSlice where
  endpoints : List SliceEndpoint
  ports : List SlicePort

structure EndpointSliceList where
  items : List EndpointSlice

/-! ## The filter -/

def protocolExcludedFromHttpProxy (protocol : Option String) : Bool :=
  protocol.any fun p => eqIgnoreAsciiCase p "UDP" || eqIgnoreAsciiCase p "SCTP"

structure ServiceTcpFilter where
  numericTargets : Finset Nat := ∅
  namedTargets : Finset String := ∅

namespace ServiceTcpFilter

def allows (filter : ServiceTcpFilter) (port : Nat)
    (portEntryName : Option String) : Bool :=
  if filter.numericTargets = ∅ ∧ filter.namedTargets = ∅ then true
  else if port ∈ filter.numericTargets then true
  else portEntryName.any fun name => name ∈ filter.namedTargets

/-- One turn of the loop over `spec.ports`. -/
def addPort (filter : ServiceTcpFilter) (p : K8sServicePort) :
    ServiceTcpFilter :=
  if protocolExcludedFromHttpProxy p.protocol then filter
  else
    match p.targetPort with
    | some (.int v) =>
        if v < 2 ^ 16
        then { filter with numericTargets := insert v filter.numericTargets }
        else filter
    | some (.name n) =>
        if !n.toList.isEmpty
        then { filter with namedTargets := insert n filter.namedTargets }
        else filter
    | none => filter

def fromServicePorts (ports : List K8sServicePort) : ServiceTcpFilter :=
  ports.foldl addPort {}

end ServiceTcpFilter

/-! ## Flattening -/

/-- The set of `host:port` texts seen so far and the instances returned. -/
abbrev Flattened := List String × List ServiceInstance

def endpointsToInstances (endpoints : K8sEndpoints)
    (tcpFilter : ServiceTcpFilter) : List ServiceInstance :=
  let flattened : Flattened :=
    (endpoints.subsets.getD []).foldl (fun flattened subset =>
      let addresses := subset.addresses.getD []
      let ports := subset.ports.getD []
      addresses.foldl (fun flattened address =>
        ports.foldl (fun flattened port =>
          if protocolExcludedFromHttpProxy port.protocol then flattened
          else if !tcpFilter.allows port.port port.name then flattened
          else keepUnseen ServiceInstance.hostPort flattened
            { host := address.ip, port := port.port })
          flattened)
        flattened)
      ([], [])
  flattened.2

def endpointSlicesToInstances (list : EndpointSliceList)
    (tcpFilter : ServiceTcpFilter) : List ServiceInstance :=
  let flattened : Flattened :=
    list.items.foldl (fun flattened slice =>
      if slice.ports.isEmpty && slice.endpoints.isEmpty then flattened
      else slice.endpoints.foldl (fun flattened ep =>
        if ep.conditions.ready = some false ∨
            ep.conditions.serving = some false
        then flattened
        else ep.addresses.foldl (fun flattened addr =>
          slice.ports.foldl (fun flattened portEnt =>
            if protocolExcludedFromHttpProxy portEnt.protocol then flattened
            else
              match portEnt.port with
              | none => flattened
              | some portNum =>
                  if !tcpFilter.allows portNum portEnt.name then flattened
                  else keepUnseen ServiceInstance.hostPort flattened
                    { host := addr, port := portNum })
            flattened)
          flattened)
        flattened)
      ([], [])
  flattened.2

/-! ## The ports of a Service -/

namespace ServiceTcpFilter

theorem addPort_of_excluded {p : K8sServicePort}
    (h : protocolExcludedFromHttpProxy p.protocol = true)
    (filter : ServiceTcpFilter) : filter.addPort p = filter := by
  simp [addPort, h]

theorem mem_numericTargets_addPort (filter : ServiceTcpFilter)
    (p : K8sServicePort) (v : Nat) :
    v ∈ (filter.addPort p).numericTargets ↔
      v ∈ filter.numericTargets ∨
        v < 2 ^ 16 ∧ protocolExcludedFromHttpProxy p.protocol = false ∧
          p.targetPort = some (.int v) := by
  by_cases hprotocol : protocolExcludedFromHttpProxy p.protocol = true
  · simp [addPort_of_excluded hprotocol, hprotocol]
  · simp only [addPort, hprotocol]
    cases htarget : p.targetPort with
    | none => simp
    | some target =>
        cases target with
        | name n => by_cases hempty : n = "" <;> simp [hempty]
        | int n =>
            by_cases hsize : n < 2 ^ 16
            · simp [show n < 65536 from hsize]
              grind
            · simp [show ¬ n < 65536 from hsize]
              grind

theorem mem_namedTargets_addPort (filter : ServiceTcpFilter)
    (p : K8sServicePort) (n : String) :
    n ∈ (filter.addPort p).namedTargets ↔
      n ∈ filter.namedTargets ∨
        n ≠ "" ∧ protocolExcludedFromHttpProxy p.protocol = false ∧
          p.targetPort = some (.name n) := by
  by_cases hprotocol : protocolExcludedFromHttpProxy p.protocol = true
  · simp [addPort_of_excluded hprotocol, hprotocol]
  · simp only [addPort, hprotocol]
    cases htarget : p.targetPort with
    | none => simp
    | some target =>
        cases target with
        | int v =>
            by_cases hsize : v < 2 ^ 16
            · simp [show v < 65536 from hsize]
            · simp [show ¬ v < 65536 from hsize]
        | name m =>
            by_cases hempty : m = ""
            · subst hempty
              simp
            · simp [hempty]
              grind

theorem mem_numericTargets_fromServicePorts {ports : List K8sServicePort}
    {v : Nat} :
    v ∈ (fromServicePorts ports).numericTargets ↔ ∃ p ∈ ports,
      v < 2 ^ 16 ∧ protocolExcludedFromHttpProxy p.protocol = false ∧
        p.targetPort = some (.int v) := by
  rw [fromServicePorts, foldl_flag (fun filter => v ∈ filter.numericTargets)
    fun filter p => mem_numericTargets_addPort filter p v]
  simp

theorem mem_namedTargets_fromServicePorts {ports : List K8sServicePort}
    {n : String} :
    n ∈ (fromServicePorts ports).namedTargets ↔ ∃ p ∈ ports,
      n ≠ "" ∧ protocolExcludedFromHttpProxy p.protocol = false ∧
        p.targetPort = some (.name n) := by
  rw [fromServicePorts, foldl_flag (fun filter => n ∈ filter.namedTargets)
    fun filter p => mem_namedTargets_addPort filter p n]
  simp

end ServiceTcpFilter

end ServiceRouter
