import ServiceRouter.Config.Loader
import ServiceRouter.Foundation.KeyedUpdate
import ServiceRouter.Server.Handlers

/-!
# The algebra of local overrides

Overrides are keyed updates of the routes: the first route with an id gets the
URL of the last entry for it.  A redirected route has a target, so routes that
had one before they were overridden have one afterwards.
-/

namespace ServiceRouter

open Foundation

/-! ## Overrides as keyed updates -/

def RoutingRule.redirect (url : String) (route : RoutingRule) : RoutingRule :=
  { route with
    upstreamUrl := some url
    serviceId := none }

theorem id_redirect (url : String) (route : RoutingRule) :
    (route.redirect url).id = route.id := rfl

/-- A redirection forgets the one before. -/
theorem redirect_redirect (url url' : String) (route : RoutingRule) :
    (route.redirect url').redirect url = route.redirect url := rfl

def LocalOverrideEntry.update (entry : LocalOverrideEntry) : String × String :=
  (entry.routeId, entry.upstreamUrl)

theorem overrideFirst_eq_setFirst (entry : LocalOverrideEntry)
    (routes : List RoutingRule) :
    overrideFirst entry routes =
      setFirst RoutingRule.id RoutingRule.redirect entry.update routes := by
  induction routes with
  | nil => rfl
  | cons route routes ih =>
      rw [overrideFirst, setFirst, ih]
      rfl

theorem routes_applyLocalOverrides (config : AppConfig)
    (overrides : List LocalOverrideEntry) :
    (config.applyLocalOverrides overrides).routes =
      setFirsts RoutingRule.id RoutingRule.redirect
        (overrides.map LocalOverrideEntry.update) config.routes := by
  simp only [AppConfig.applyLocalOverrides, setFirsts, List.foldl_map,
    overrideFirst_eq_setFirst]

theorem applyLocalOverrides_eq (config : AppConfig)
    (overrides : List LocalOverrideEntry) :
    config.applyLocalOverrides overrides =
      { config with
        routes := (config.applyLocalOverrides overrides).routes } :=
  rfl

/-! ## The route at a position -/

/-- The URL of the last entry for an id. -/
def lastUrl (overrides : List LocalOverrideEntry) (id : String) :
    Option String :=
  (overrides.reverse.find? fun entry => entry.routeId = id).map
    LocalOverrideEntry.upstreamUrl

/-- What becomes of a route: it is redirected when an entry names it and no
earlier route has its id. -/
def overriddenRoute (routes : List RoutingRule)
    (overrides : List LocalOverrideEntry) (position : Nat)
    (route : RoutingRule) : RoutingRule :=
  if route.id ∈ (routes.take position).map RoutingRule.id then route
  else
    match lastUrl overrides route.id with
    | some url => { route with upstreamUrl := some url, serviceId := none }
    | none => route

theorem lastFor_update (overrides : List LocalOverrideEntry) (id : String) :
    lastFor (overrides.map LocalOverrideEntry.update) id =
      lastUrl overrides id := by
  rw [lastFor, lastUrl, ← List.map_reverse, List.find?_map, Option.map_map]
  rfl

theorem setAt_redirect (routes : List RoutingRule)
    (overrides : List LocalOverrideEntry) :
    setAt RoutingRule.id RoutingRule.redirect
        (lastFor (overrides.map LocalOverrideEntry.update)) routes =
      overriddenRoute routes overrides := by
  funext position route
  rw [setAt, overriddenRoute, lastFor_update, List.map_take]
  cases lastUrl overrides route.id <;> rfl

theorem applyLocalOverrides_eq_mapIdx (config : AppConfig)
    (overrides : List LocalOverrideEntry) :
    config.applyLocalOverrides overrides =
      { config with
        routes := config.routes.mapIdx
          (overriddenRoute config.routes overrides) } := by
  rw [applyLocalOverrides_eq, routes_applyLocalOverrides,
    setFirsts_eq_mapIdx id_redirect redirect_redirect, setAt_redirect]

theorem applyLocalOverrides_append (config : AppConfig)
    (first second : List LocalOverrideEntry) :
    (config.applyLocalOverrides first).applyLocalOverrides second =
      config.applyLocalOverrides (first ++ second) := by
  rw [applyLocalOverrides_eq, routes_applyLocalOverrides,
    routes_applyLocalOverrides, ← setFirsts_append, ← List.map_append,
    ← routes_applyLocalOverrides]
  rfl

theorem applyLocalOverrides_self (config : AppConfig)
    (overrides : List LocalOverrideEntry) :
    (config.applyLocalOverrides overrides).applyLocalOverrides overrides =
      config.applyLocalOverrides overrides := by
  rw [applyLocalOverrides_eq, routes_applyLocalOverrides,
    routes_applyLocalOverrides,
    setFirsts_setFirsts id_redirect redirect_redirect,
    ← routes_applyLocalOverrides]

/-! ## Targets -/

def RoutingRule.Targeted (route : RoutingRule) : Prop :=
  route.serviceId ≠ none ∨ route.upstreamUrl ≠ none

theorem targeted_of_validateConfig {P : Platform} {config : AppConfig}
    (h : validateConfig P config = .ok ()) :
    ∀ route ∈ config.routes, route.Targeted := by
  intro route hroute
  have hvalid := validateConfig_eq_ok.mp h route hroute
  by_contra hnone
  simp only [RoutingRule.Targeted, not_or, not_not] at hnone
  simp [validateRule, hnone.1, hnone.2] at hvalid

theorem targeted_applyLocalOverrides {config : AppConfig}
    (h : ∀ route ∈ config.routes, route.Targeted)
    (overrides : List LocalOverrideEntry) :
    ∀ route ∈ (config.applyLocalOverrides overrides).routes,
      route.Targeted := by
  rw [routes_applyLocalOverrides]
  exact forall_mem_setFirsts (fun _ _ => .inr (Option.some_ne_none _)) _ h

/-- The handler takes the URL of the rule or asks for the instances of its
service; the branch of a rule without a target is not taken. -/
def ReachesTarget (rule : CompiledRoutingRule) (path : String) : Prop :=
  (∃ url, rule.upstreamUrl = some url ∧
    upstreamBaseOf rule path = .done (.ok url)) ∨
  ∃ svcId next, rule.upstreamUrl = none ∧ rule.serviceId = some svcId ∧
    upstreamBaseOf rule path = .call (.resolve svcId) next

theorem reachesTarget_of_ne_none {rule : CompiledRoutingRule}
    (h : rule.serviceId ≠ none ∨ rule.upstreamUrl ≠ none) (path : String) :
    ReachesTarget rule path := by
  unfold ReachesTarget upstreamBaseOf
  cases hurl : rule.upstreamUrl with
  | some url => exact .inl ⟨url, rfl, rfl⟩
  | none =>
      cases hservice : rule.serviceId with
      | some svcId => exact .inr ⟨svcId, _, rfl, rfl, rfl⟩
      | none => simp [hurl, hservice] at h

theorem reachesTarget_of_targeted {P : Platform} {config : AppConfig}
    {router : RouterSnapshot} (h : ∀ route ∈ config.routes, route.Targeted)
    (hrouter : RouterSnapshot.fromConfig P config = .ok router)
    {rule : CompiledRoutingRule} (hrule : rule ∈ router.rules)
    (path : String) : ReachesTarget rule path := by
  obtain ⟨form, hform, hrules⟩ := fromConfig_eq_ok.mp hrouter
  rw [hrules] at hrule
  obtain ⟨k, -, rfl⟩ := List.mem_map.mp hrule
  obtain ⟨_, _, -, -, hcompiled⟩ := compile_eq_ok.mp (hform k)
  apply reachesTarget_of_ne_none
  have htargeted := h _ (List.get_mem config.routes k)
  rw [RoutingRule.Targeted] at htargeted
  rw [hcompiled]
  exact htargeted

/-- Overrides redirect the first route of each named id to the URL of the last
entry for it and change nothing else.  Applying them again changes nothing,
one list after the other is both lists, and routes keep having targets. -/
theorem localOverrides_algebra (config : AppConfig)
    (first second : List LocalOverrideEntry) :
    config.applyLocalOverrides first =
        { config with
          routes := config.routes.mapIdx
            (overriddenRoute config.routes first) } ∧
      (config.applyLocalOverrides first).applyLocalOverrides first =
        config.applyLocalOverrides first ∧
      (config.applyLocalOverrides first).applyLocalOverrides second =
        config.applyLocalOverrides (first ++ second) ∧
      (∀ P, validateConfig P config = .ok () →
        ∀ route ∈ config.routes, route.Targeted) ∧
      ((∀ route ∈ config.routes, route.Targeted) →
        (∀ route ∈ (config.applyLocalOverrides first).routes,
          route.Targeted) ∧
        ∀ P router, RouterSnapshot.fromConfig P
            (config.applyLocalOverrides first) = .ok router →
          ∀ rule ∈ router.rules, ∀ path, ReachesTarget rule path) := by
  refine ⟨applyLocalOverrides_eq_mapIdx config first,
    applyLocalOverrides_self config first,
    applyLocalOverrides_append config first second,
    fun P hvalid => targeted_of_validateConfig hvalid, fun htargeted => ?_⟩
  have hkept := targeted_applyLocalOverrides htargeted first
  refine ⟨hkept, fun P router hrouter rule hrule path => ?_⟩
  exact reachesTarget_of_targeted hkept hrouter hrule path

end ServiceRouter
