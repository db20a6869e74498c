import ServiceRouter.Config.Model
import ServiceRouter.Foundation.UrlEncoded
import ServiceRouter.Registry.Client

/-!
# The Kubernetes client

A lookup reads the Service for its ports, then the core Endpoints, and lists
the EndpointSlices only if there are none.  What is absent counts as empty.
-/

namespace ServiceRouter

open Foundation

def buildEndpointSliceLabelSelector (serviceName : String)
    (extra : Option String) : String :=
  let s := s!"kubernetes.io/service-name={serviceName}"
  match extra with
  | none => s
  | some x =>
      let t := trim x
      if t.isEmpty then s else s!"{s},{t}"

structure K8sRegistry where
  config : KubernetesConfig
  bearerToken : Option String

namespace K8sRegistry

variable (registry : K8sRegistry)

/-! ## Requests -/

def apiServer : String := trimEndMatches registry.config.apiServerUrl '/'

def endpointUrl (ns serviceId : String) : String :=
  s!"{registry.apiServer}/api/v1/namespaces/{ns}/endpoints/{serviceId}"

def serviceUrl (ns serviceId : String) : String :=
  s!"{registry.apiServer}/api/v1/namespaces/{ns}/services/{serviceId}"

def endpointSlicesListUrl (ns serviceName : String) : String :=
  let base := s!"{registry.apiServer}/apis/discovery.k8s.io/v1/namespaces" ++
    s!"/{ns}/endpointslices"
  let selector := buildEndpointSliceLabelSelector serviceName
    registry.config.endpointSliceLabelSelector
  let query := encodePair "labelSelector" selector
  s!"{base}?{query}"

def healthUrl : String := s!"{registry.apiServer}/readyz"

def withAuth (req : RegistryRequest) : RegistryRequest :=
  match registry.bearerToken with
  | some token =>
      if !(trim token).isEmpty then { req with auth := .bearer token } else req
  | none => req

def get (url : String) : RegistryRequest := registry.withAuth { url := url }

/-! ## Lookups -/

/-- What the three requests have in common: a denied one fails, an absent
object has a default, and any other failure names the object. -/
def fetch {α : Type} (url noun : String) (absent : α) (shape : BodyShape)
    (convert : shape.Content → α) :
    RegistryProgram (Except RegistryError α) := do
  let sent ← (RegistryOp.send (registry.get url)).ask
  match sent with
  | .error reason => return .error (.http reason)
  | .ok status =>
      if status.isUnauthorized || status.isForbidden then
        return .error .authFailed
      else if status.isNotFound then return .ok absent
      else if !status.isSuccess then
        return .error (.unexpectedResponse
          s!"Kubernetes {noun} {url} returned {status.display}")
      else do
        let body ← readBody shape
        match body with
        | .error e => return .error e
        | .ok content => return .ok (convert content)

def fetchServiceTcpFilter (ns name : String) :
    RegistryProgram (Except RegistryError ServiceTcpFilter) :=
  registry.fetch (registry.serviceUrl ns name) "service" {} .k8sService
    fun svc => ServiceTcpFilter.fromServicePorts (K8sService.spec svc).ports

def fetchCoreEndpoints (ns name : String) (tcpFilter : ServiceTcpFilter) :
    RegistryProgram (Except RegistryError (List ServiceInstance)) :=
  registry.fetch (registry.endpointUrl ns name) "endpoints" []
    .k8sEndpoints fun endpoints => endpointsToInstances endpoints tcpFilter

def fetchEndpointSlices (ns serviceName : String)
    (tcpFilter : ServiceTcpFilter) :
    RegistryProgram (Except RegistryError (List ServiceInstance)) :=
  registry.fetch (registry.endpointSlicesListUrl ns serviceName)
    "endpointSlices" [] .endpointSliceList
    fun list => endpointSlicesToInstances list tcpFilter

def namespaceOrDefault : String :=
  registry.config.namespace_.getD "default"

def getHealthyInstances (serviceId : String) :
    RegistryProgram (Except RegistryError (List ServiceInstance)) := do
  let ns := registry.namespaceOrDefault
  let filter ← registry.fetchServiceTcpFilter ns serviceId
  match filter with
  | .error e => return .error e
  | .ok tcpFilter => do
      let core ← registry.fetchCoreEndpoints ns serviceId tcpFilter
      match core with
      | .error e => return .error e
      | .ok fromCore =>
          if !fromCore.isEmpty then return .ok fromCore
          else registry.fetchEndpointSlices ns serviceId tcpFilter

end K8sRegistry

end ServiceRouter
