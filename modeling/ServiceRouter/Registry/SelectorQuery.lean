import ServiceRouter.Registry.KubernetesLookup

/-!
# The label selector a lookup sends

The two requests for an object carry the service id in their path as it is;
only the list of EndpointSlices has a query.  Whatever the id and the
configured selector contain, the cluster reads there the requirement on the
service name and those that the configuration adds.
-/

namespace ServiceRouter

open Foundation

/-! ## Requirements -/

/-- The requirement that every list of slices is limited by. -/
def serviceRequirement (serviceName : String) : String :=
  s!"kubernetes.io/service-name={serviceName}"

/-- The requirements of a configured selector; a blank one has none. -/
def extraRequirements : Option String → List (List Char)
  | none => []
  | some extra =>
      if (trim extra).isEmpty then [] else (trim extra).toList.splitOn ','

theorem comma_not_mem_serviceRequirement {serviceName : String}
    (h : ',' ∉ serviceName.toList) :
    ',' ∉ (serviceRequirement serviceName).toList := by
  have hkey : ',' ∉ "kubernetes.io/service-name=".toList := by decide
  have hparts : serviceRequirement serviceName =
      "kubernetes.io/service-name=" ++ serviceName := rfl
  rw [hparts, String.toList_append, List.mem_append, not_or]
  exact ⟨hkey, h⟩

/-- A configured selector can only narrow the list. -/
theorem splitOn_buildEndpointSliceLabelSelector {serviceName : String}
    (h : ',' ∉ serviceName.toList) (extra : Option String) :
    (buildEndpointSliceLabelSelector serviceName extra).toList.splitOn ',' =
      (serviceRequirement serviceName).toList :: extraRequirements extra := by
  have hcomma := comma_not_mem_serviceRequirement h
  cases extra with
  | none => exact List.splitOn_eq_singleton hcomma
  | some extra =>
      dsimp only [buildEndpointSliceLabelSelector, extraRequirements]
      split
      · exact List.splitOn_eq_singleton hcomma
      · have hlist :
            (serviceRequirement serviceName ++ "," ++ trim extra).toList =
              (serviceRequirement serviceName).toList ++
                ',' :: (trim extra).toList := by simp
        exact (congrArg (List.splitOn ',') hlist).trans
          (List.splitOn_append_cons_self_of_not_mem hcomma _)

namespace K8sRegistry

variable {registry : K8sRegistry}

/-! ## The URLs -/

theorem get_url (url : String) : (registry.get url).url = url := by
  unfold get withAuth
  split
  · split <;> rfl
  · rfl

/-- The selector of the slices of a service. -/
def sliceSelector (registry : K8sRegistry) (serviceId : String) : String :=
  buildEndpointSliceLabelSelector serviceId
    registry.config.endpointSliceLabelSelector

/-- The configured parts of the URLs begin neither a query nor a fragment. -/
structure PlainBase (registry : K8sRegistry) : Prop where
  apiServer : IsPlainPath registry.apiServer
  ns : IsPlainPath registry.namespaceOrDefault

namespace PlainBase

theorem urlQuery_slices (h : registry.PlainBase) (serviceId : String) :
    urlQuery (registry.endpointSlicesListUrl registry.namespaceOrDefault
        serviceId) =
      some (encodePair "labelSelector" (registry.sliceSelector serviceId)) := by
  have hbase : IsPlainPath (registry.apiServer ++
      "/apis/discovery.k8s.io/v1/namespaces" ++
      ("/" ++ registry.namespaceOrDefault ++ "/endpointslices")) := by
    simp only [isPlainPath_append]
    exact ⟨⟨h.apiServer, by decide⟩, ⟨by decide, h.ns⟩, by decide⟩
  exact urlQuery_append hbase (hash_not_mem_encodePair _ _)

/-- The path of one object of the namespace. -/
theorem urlQuery_object (h : registry.PlainBase) {collection : String}
    (hcollection : IsPlainPath collection) {serviceId : String}
    (hid : IsPlainPath serviceId) :
    urlQuery (registry.apiServer ++ "/api/v1/namespaces/" ++
      registry.namespaceOrDefault ++ collection ++ serviceId) = none := by
  refine urlQuery_of_isPlainPath ?_
  simp only [isPlainPath_append]
  exact ⟨⟨⟨⟨h.apiServer, by decide⟩, h.ns⟩, hcollection⟩, hid⟩

end PlainBase

/-! ## Every lookup -/

/--
A third request has the one parameter `labelSelector`, and decoding it gives the
selector back for every service id.  An id without a comma is one requirement of
it, the configured ones follow.  The requests before have no query.
-/
theorem lookup_query (hbase : registry.PlainBase) {serviceId : String}
    {log : List RegistryExchange}
    {result : Except RegistryError (List ServiceInstance)}
    (h : (registry.getHealthyInstances serviceId).Returns log result) :
    (∀ req, (requestsOf log)[2]? = some req →
      (urlQuery req.url).map decodePairs =
        some [(utf8Bytes "labelSelector",
          utf8Bytes (registry.sliceSelector serviceId))]) ∧
    (',' ∉ serviceId.toList →
      (registry.sliceSelector serviceId).toList.splitOn ',' =
        (serviceRequirement serviceId).toList ::
          extraRequirements registry.config.endpointSliceLabelSelector) ∧
    (IsPlainPath serviceId → ∀ req ∈ (requestsOf log).take 2,
      urlQuery req.url = none) := by
  have hprefix := requestsOf_prefix h
  refine ⟨fun req hreq => ?_,
    fun hcomma => splitOn_buildEndpointSliceLabelSelector hcomma _,
    fun hid req hreq => ?_⟩
  · obtain ⟨hlt, rfl⟩ := List.getElem?_eq_some_iff.mp hreq
    have hthird := Option.some.inj
      (List.prefix_iff_getElem?.mp hprefix 2 hlt).symm
    rw [hthird, get_url, hbase.urlQuery_slices, Option.map_some,
      decodePairs_encodePair]
  · have hmem := (List.IsPrefix.take hprefix 2).subset hreq
    rcases List.mem_pair.mp hmem with rfl | rfl
    · have hservices : IsPlainPath "/services/" := by decide
      rw [get_url]
      exact hbase.urlQuery_object hservices hid
    · have hendpoints : IsPlainPath "/endpoints/" := by decide
      rw [get_url]
      exact hbase.urlQuery_object hendpoints hid

/-! ## A selector that is added -/

def zonedRegistry : K8sRegistry where
  config := { clusterRegistry.config with
    endpointSliceLabelSelector := some " zone=a,tier!=test " }
  bearerToken := none

def emptyLookupLog (registry : K8sRegistry) (serviceId : String) :
    List RegistryExchange :=
  (registry.lookupRequests serviceId).map fun req =>
    ⟨.send req, .ok ⟨404, "404 Not Found"⟩⟩

theorem lookup_query_zoned :
    (zonedRegistry.getHealthyInstances "orders&limit=1").Returns
        (emptyLookupLog zonedRegistry "orders&limit=1") (.ok []) ∧
      (zonedRegistry.sliceSelector "orders&limit=1").toList.splitOn ',' =
        ["kubernetes.io/service-name=orders&limit=1", "zone=a",
          "tier!=test"].map String.toList := by
  have hreturns : (zonedRegistry.getHealthyInstances "orders&limit=1").Returns
      (emptyLookupLog zonedRegistry "orders&limit=1") (.ok []) :=
    .step _ (.step _ (.step _ (.refl _)))
  have hquery := lookup_query ⟨by decide, by decide⟩ hreturns
  exact ⟨hreturns, (hquery.2.1 (by decide)).trans (by decide)⟩

end K8sRegistry

end ServiceRouter
