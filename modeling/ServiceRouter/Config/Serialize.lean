import ServiceRouter.Config.Model

/-!
# Configuration values as JSON

What `serde_json::to_value` yields for the parts of a configuration.  Two
routes with the same JSON agree in every field; maps agree in their bindings.
-/

namespace ServiceRouter

open Foundation

namespace Foundation

def Value.ofNat (n : Nat) : Value := .number (.posInt n)

def Value.ofOption {α : Type} (value : α → Value) : Option α → Value
  | none => .null
  | some a => value a

def HashMap.toValue {ν : Type} (value : ν → Value) (map : HashMap String ν) :
    Value :=
  .mkObject (map.entries.map fun entry => (entry.1, value entry.2))

end Foundation

/-! ## Server -/

def InstanceSelection.toValue : InstanceSelection → Value
  | .first => .string "first"
  | .roundRobin => .string "round_robin"
  | .random => .string "random"
  | .weightedRoundRobin => .string "weighted_round_robin"

def PluginConfig.toValue (plugin : PluginConfig) : Value :=
  .mkObject [
    ("name", .string plugin.name),
    ("order", .ofNat plugin.order),
    ("enabled", .bool plugin.enabled),
    ("config", plugin.config)]

def HealthCheckConfig.toValue (check : HealthCheckConfig) : Value :=
  .mkObject [
    ("interval_secs", .ofNat check.intervalSecs),
    ("path", .string check.path),
    ("timeout_secs", .ofNat check.timeoutSecs),
    ("unhealthy_threshold", .ofNat check.unhealthyThreshold),
    ("healthy_threshold", .ofNat check.healthyThreshold)]

def ServerConfig.toValue (server : ServerConfig) : Value :=
  .mkObject [
    ("host", .string server.host),
    ("port", .ofNat server.port),
    ("upstream_timeout_secs", .ofNat server.upstreamTimeoutSecs),
    ("instance_selection", server.instanceSelection.toValue),
    ("max_retries", .ofNat server.maxRetries),
    ("circuit_breaker_threshold", .ofNat server.circuitBreakerThreshold),
    ("circuit_breaker_recovery_secs",
      .ofNat server.circuitBreakerRecoverySecs),
    ("plugins", .array (server.plugins.map PluginConfig.toValue)),
    ("health_check", .ofOption HealthCheckConfig.toValue server.healthCheck)]

/-! ## Registries -/

def RegistryQueryMode.toValue : RegistryQueryMode → Value
  | .priority => .string "priority"
  | .merge => .string "merge"

def NacosAuth.toValue (auth : NacosAuth) : Value :=
  .mkObject [
    ("username", .string auth.username),
    ("password", .string auth.password),
    ("token_refresh_interval_secs", .ofNat auth.tokenRefreshIntervalSecs)]

def BasicAuth.toValue (auth : BasicAuth) : Value :=
  .mkObject [
    ("username", .string auth.username),
    ("password", .string auth.password)]

def K8sAuth.toValue (auth : K8sAuth) : Value :=
  .mkObject [
    ("token_file", .ofOption .string auth.tokenFile),
    ("token", .ofOption .string auth.token)]

def MockRegistryHealthBehavior.toValue : MockRegistryHealthBehavior → Value
  | .healthy => .mkObject [("type", .string "healthy")]
  | .degraded message =>
      .mkObject [("type", .string "degraded"), ("message", .string message)]
  | .unhealthy message =>
      .mkObject [("type", .string "unhealthy"), ("message", .string message)]

def MockServiceInstance.toValue (inst : MockServiceInstance) : Value :=
  .mkObject [
    ("host", .string inst.host),
    ("port", .ofNat inst.port),
    ("metadata", inst.metadata.toValue .string)]

/-- The tag of the variant comes first, then the fields of its contents. -/
def RegistryConfig.toValue : RegistryConfig → Value
  | .nacos c => .mkObject [
      ("type", .string "nacos"),
      ("priority", .ofNat c.priority),
      ("server_addr", .string c.serverAddr),
      ("namespace", .ofOption .string c.namespace_),
      ("group", .ofOption .string c.group),
      ("auth", .ofOption NacosAuth.toValue c.auth)]
  | .eureka c => .mkObject [
      ("type", .string "eureka"),
      ("priority", .ofNat c.priority),
      ("server_url", .string c.serverUrl),
      ("health_path", .string c.healthPath),
      ("auth", .ofOption BasicAuth.toValue c.auth)]
  | .kubernetes c => .mkObject [
      ("type", .string "kubernetes"),
      ("priority", .ofNat c.priority),
      ("api_server_url", .string c.apiServerUrl),
      ("namespace", .ofOption .string c.namespace_),
      ("kubeconfig_path", .ofOption .string c.kubeconfigPath),
      ("kubeconfig_context", .ofOption .string c.kubeconfigContext),
      ("insecure_skip_tls_verify", .bool c.insecureSkipTlsVerify),
      ("endpoint_slice_label_selector",
        .ofOption .string c.endpointSliceLabelSelector),
      ("auth", .ofOption K8sAuth.toValue c.auth)]
  | .mock c => .mkObject [
      ("type", .string "mock"),
      ("priority", .ofNat c.priority),
      ("services", c.services.toValue fun instances =>
        .array (instances.map MockServiceInstance.toValue)),
      ("error_services", c.errorServices.toValue .string),
      ("health_behavior", c.healthBehavior.toValue)]

def RegistriesConfig.toValue (registries : RegistriesConfig) : Value :=
  .mkObject [
    ("query_mode", registries.queryMode.toValue),
    ("sources", .array (registries.sources.map RegistryConfig.toValue))]

/-! ## Routes -/

def PathMatcher.toValue : PathMatcher → Value
  | .exact value => .mkObject [("type", .string "exact"), ("value", .string value)]
  | .prefix_ value =>
      .mkObject [("type", .string "prefix"), ("value", .string value)]
  | .glob value => .mkObject [("type", .string "glob"), ("value", .string value)]
  | .regex value =>
      .mkObject [("type", .string "regex"), ("value", .string value)]

def RoutingRule.toValue (rule : RoutingRule) : Value :=
  .mkObject [
    ("id", .string rule.id),
    ("path", rule.path.toValue),
    ("methods", .ofOption (fun methods => .array (methods.map .string))
      rule.methods),
    ("headers", .ofOption (HashMap.toValue .string) rule.headers),
    ("service_id", .ofOption .string rule.serviceId),
    ("upstream_url", .ofOption .string rule.upstreamUrl),
    ("strip_prefix", .ofOption .string rule.stripPrefix),
    ("response_headers", .ofOption (HashMap.toValue .string)
      rule.responseHeaders),
    ("priority", .ofNat rule.priority)]

/-! ## What equal JSON says -/

private theorem lookup_reverse_fields {ν : Type} (value : ν → Value)
    (entries : List ((_ : String) × ν)) (hnodup : entries.NodupKeys)
    (k : String) :
    (entries.map fun entry => (entry.1, value entry.2)).reverse.lookup k =
      (entries.dlookup k).map value := by
  induction entries with
  | nil => rfl
  | cons entry entries ih =>
      obtain ⟨l, v⟩ := entry
      rw [List.nodupKeys_cons] at hnodup
      rw [List.map_cons, List.reverse_cons, List.lookup_append,
        ih hnodup.2]
      by_cases h : k = l
      · subst h
        rw [List.dlookup_eq_none.mpr hnodup.1, List.dlookup_cons_eq]
        simp
      · rw [List.dlookup_cons_ne _ _ h]
        simp [List.lookup_cons, beq_eq_false_iff_ne.mpr h]

theorem getField_toValue {ν : Type} (value : ν → Value)
    (map : HashMap String ν) (k : String) :
    (map.toValue value).getField k = (map.lookup k).map value := by
  rw [HashMap.toValue, Value.getField_mkObject,
    lookup_reverse_fields value map.entries map.nodupKeys]
  rfl

theorem sameBindings_of_toValue_eq {left right : HashMap String String}
    (h : left.toValue .string = right.toValue .string) :
    HashMap.SameBindings left right := by
  refine List.lookup_ext left.nodupKeys right.nodupKeys fun k v => ?_
  have hfield : (left.lookup k).map Value.string =
      (right.lookup k).map Value.string := by
    rw [← getField_toValue, ← getField_toValue, h]
  have hinj : Function.Injective Value.string := fun _ _ h => by cases h; rfl
  have hlookup : left.lookup k = right.lookup k :=
    Option.map_injective hinj hfield
  change v ∈ left.lookup k ↔ v ∈ right.lookup k
  rw [hlookup]

private theorem rel_of_ofOption_eq {α : Type} (value : α → Value)
    (related : α → α → Prop)
    (hvalue : ∀ a b, value a = value b → related a b)
    (hnull : ∀ a, value a ≠ .null) {left right : Option α}
    (h : Value.ofOption value left = Value.ofOption value right) :
    Option.Rel related left right := by
  cases left with
  | none =>
      cases right with
      | none => exact .none
      | some b => exact absurd h.symm (hnull b)
  | some a =>
      cases right with
      | none => exact absurd h (hnull a)
      | some b => exact .some (hvalue a b h)

private theorem eq_of_rel_eq {α : Type} {left right : Option α}
    (h : Option.Rel (· = ·) left right) : left = right := by
  cases h with
  | none => rfl
  | some h => rw [h]

private theorem eq_of_ofOption_string_eq {left right : Option String}
    (h : Value.ofOption .string left = Value.ofOption .string right) :
    left = right :=
  eq_of_rel_eq <| rel_of_ofOption_eq .string (· = ·)
    (fun _ _ h => by cases h; rfl) (fun _ => by simp) h

private theorem sameBindings_of_ofOption_eq
    {left right : Option (HashMap String String)}
    (h : Value.ofOption (HashMap.toValue .string) left =
      Value.ofOption (HashMap.toValue .string) right) :
    Option.Rel HashMap.SameBindings left right := by
  refine rel_of_ofOption_eq (HashMap.toValue .string) HashMap.SameBindings
    (fun _ _ h => sameBindings_of_toValue_eq h) (fun map => ?_) h
  simp [HashMap.toValue, Value.mkObject]

theorem pathMatcher_toValue_injective {left right : PathMatcher}
    (h : left.toValue = right.toValue) : left = right := by
  have htype : left.toValue.getField "type" = right.toValue.getField "type" :=
    by rw [h]
  have hvalue :
      left.toValue.getField "value" = right.toValue.getField "value" := by
    rw [h]
  cases left <;> cases right <;>
    simp [PathMatcher.toValue, Value.getField_mkObject, List.lookup_cons]
      at htype hvalue
  all_goals rw [hvalue]

private theorem methods_injective {left right : List String}
    (h : Value.array (left.map .string) = .array (right.map .string)) :
    left = right := by
  have hinj : Function.Injective Value.string := fun _ _ h => by cases h; rfl
  exact List.map_injective_iff.mpr hinj (by simpa using h)

structure RoutingRule.SameContent (left right : RoutingRule) : Prop where
  id : left.id = right.id
  path : left.path = right.path
  methods : left.methods = right.methods
  headers : Option.Rel HashMap.SameBindings left.headers right.headers
  serviceId : left.serviceId = right.serviceId
  upstreamUrl : left.upstreamUrl = right.upstreamUrl
  stripPrefix : left.stripPrefix = right.stripPrefix
  responseHeaders :
    Option.Rel HashMap.SameBindings left.responseHeaders right.responseHeaders
  priority : left.priority = right.priority

theorem RoutingRule.sameContent_of_toValue_eq {left right : RoutingRule}
    (h : left.toValue = right.toValue) : left.SameContent right := by
  have hfield (k : String) :
      left.toValue.getField k = right.toValue.getField k := by rw [h]
  have hid := hfield "id"
  have hpath := hfield "path"
  have hmethods := hfield "methods"
  have hheaders := hfield "headers"
  have hserviceId := hfield "service_id"
  have hupstreamUrl := hfield "upstream_url"
  have hstripPrefix := hfield "strip_prefix"
  have hresponseHeaders := hfield "response_headers"
  have hpriority := hfield "priority"
  simp [RoutingRule.toValue, Value.getField_mkObject, List.lookup_cons,
    Value.ofNat] at hid hpath hmethods hheaders hpriority
  simp [RoutingRule.toValue, Value.getField_mkObject, List.lookup_cons]
    at hserviceId hupstreamUrl hstripPrefix hresponseHeaders
  exact {
    id := hid
    path := pathMatcher_toValue_injective hpath
    methods := eq_of_rel_eq <| rel_of_ofOption_eq
      (fun methods => .array (methods.map .string)) (· = ·)
      (fun _ _ h => methods_injective h) (fun _ => by simp) hmethods
    headers := sameBindings_of_ofOption_eq hheaders
    serviceId := eq_of_ofOption_string_eq hserviceId
    upstreamUrl := eq_of_ofOption_string_eq hupstreamUrl
    stripPrefix := eq_of_ofOption_string_eq hstripPrefix
    responseHeaders := sameBindings_of_ofOption_eq hresponseHeaders
    priority := hpriority }

end ServiceRouter
