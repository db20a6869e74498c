import ServiceRouter.Config.DiffRouting

/-!
# Which requests a change can affect

A diff names the routes that were added, removed or modified.  A request is
routed differently only if a route that it resolves to, before or after, is one
of these, or if two routes of equal priority have changed places.
-/

namespace ServiceRouter

open Foundation

/-- The report has a change of the route with this id. -/
def ConfigDiffReport.Reports (report : ConfigDiffReport) (id : String) : Prop :=
  ∃ change ∈ report.changes, change.path = s!"routes[{id}]"

section Unreported

variable {iter : IterOrder} {left right : AppConfig}
  {leftPath rightPath : String}

private theorem reports_of_mem {change : ConfigDiffChange} {id : String}
    (hchange : change ∈ diffRoutesById iter left.routes right.routes)
    (hpath : change.path = s!"routes[{id}]") :
    (diffAppConfigs iter left right leftPath rightPath).Reports id :=
  ⟨change, List.mem_append_right _ hchange, hpath⟩

/-- Under an id that is not reported both configurations have the same JSON. -/
theorem sameRouteAt_of_not_reports {id : String}
    (h : ¬ (diffAppConfigs iter left right leftPath rightPath).Reports id) :
    SameRouteAt left.routes right.routes id := by
  have hunchanged (kind : ChangeKind) (l r : Option RoutingRule) :
      routeChange kind id l r ∉ diffRoutesById iter left.routes right.routes :=
    fun hchange => h (reports_of_mem hchange rfl)
  by_contra hne
  rw [SameRouteAt] at hne
  by_cases hl : id ∈ (routesById left.routes).keys
  · by_cases hr : id ∈ (routesById right.routes).keys
    · refine hunchanged .modified ((routesById left.routes).lookup id)
        ((routesById right.routes).lookup id) (List.mem_append_right _ ?_)
      refine List.mem_filterMap.mpr ⟨id, mem_keyIntersection.mpr ⟨hl, hr⟩, ?_⟩
      exact if_pos hne
    · refine hunchanged .removed ((routesById left.routes).lookup id) none
        (List.mem_append_left _ (List.mem_append_left _ ?_))
      exact List.mem_map.mpr ⟨id, mem_keyDifference.mpr ⟨hl, hr⟩, rfl⟩
  · by_cases hr : id ∈ (routesById right.routes).keys
    · refine hunchanged .added none ((routesById right.routes).lookup id)
        (List.mem_append_left _ (List.mem_append_right _ ?_))
      exact List.mem_map.mpr ⟨id, mem_keyDifference.mpr ⟨hr, hl⟩, rfl⟩
    · rw [AList.lookup_eq_none.mpr hl, AList.lookup_eq_none.mpr hr] at hne
      exact hne rfl

end Unreported

/-! ## The requests that keep their route -/

/-- Two unreported routes of equal priority that the request matches are
declared in the same relative order in both configurations. -/
def UnreportedTieOrder (P : Platform) (report : ConfigDiffReport)
    (left right : List RoutingRule) (path method : String)
    (headers : HeaderMap) : Prop :=
  ∀ (i i' : Fin left.length) (j j' : Fin right.length),
    (left.get i).id = (right.get j).id →
    (left.get i').id = (right.get j').id →
    ¬ report.Reports (left.get i).id → ¬ report.Reports (left.get i').id →
    (left.get i).matches P path method headers = true →
    (left.get i').matches P path method headers = true →
    (left.get i).priority = (left.get i').priority → i < i' → j < j'

/-- The rule that wins on either side is not named in the report. -/
def WinnersUnreported (P : Platform) (report : ConfigDiffReport)
    (left right : RouterSnapshot) (path method : String)
    (headers : HeaderMap) : Prop :=
  ∀ rule, left.resolvedRule P path method headers = some rule ∨
      right.resolvedRule P path method headers = some rule →
    ¬ report.Reports rule.id

theorem resolves_alike_of_unreported {P : Platform} {left right : AppConfig}
    {leftSnapshot rightSnapshot : RouterSnapshot} {iter : IterOrder}
    {leftPath rightPath : String}
    (hleft : RouterSnapshot.fromConfig P left = .ok leftSnapshot)
    (hright : RouterSnapshot.fromConfig P right = .ok rightSnapshot)
    (hleftIds : (left.routes.map RoutingRule.id).Nodup)
    (hrightIds : (right.routes.map RoutingRule.id).Nodup)
    {path method : String} {headers : HeaderMap}
    (hties : UnreportedTieOrder P
      (diffAppConfigs iter left right leftPath rightPath)
      left.routes right.routes path method headers)
    (hunreported : WinnersUnreported P
      (diffAppConfigs iter left right leftPath rightPath)
      leftSnapshot rightSnapshot path method headers) :
    Option.Rel CompiledRoutingRule.SameContent
      (leftSnapshot.resolvedRule P path method headers)
      (rightSnapshot.resolvedRule P path method headers) := by
  exact resolves_alike_of_sameRouteAt _ hleft hright hleftIds hrightIds
    (fun _ => sameRouteAt_of_not_reports) hunreported hties

/-- A request goes to rules with the same content before and after, unless the
rule that wins on one of the sides is named in the report. -/
theorem diff_impact {P : Platform} {left right : AppConfig}
    {leftSnapshot rightSnapshot : RouterSnapshot} {iter : IterOrder}
    {leftPath rightPath : String}
    (hleft : RouterSnapshot.fromConfig P left = .ok leftSnapshot)
    (hright : RouterSnapshot.fromConfig P right = .ok rightSnapshot)
    (hleftIds : (left.routes.map RoutingRule.id).Nodup)
    (hrightIds : (right.routes.map RoutingRule.id).Nodup)
    {path method : String} {headers : HeaderMap}
    (hties : UnreportedTieOrder P
      (diffAppConfigs iter left right leftPath rightPath)
      left.routes right.routes path method headers) :
    Option.Rel CompiledRoutingRule.SameContent
      (leftSnapshot.resolvedRule P path method headers)
      (rightSnapshot.resolvedRule P path method headers) ∨
    ∃ rule,
      (leftSnapshot.resolvedRule P path method headers = some rule ∨
        rightSnapshot.resolvedRule P path method headers = some rule) ∧
      (diffAppConfigs iter left right leftPath rightPath).Reports rule.id := by
  rw [or_iff_not_imp_right]
  intro hunreported
  refine resolves_alike_of_unreported hleft hright hleftIds hrightIds hties ?_
  exact fun rule hwins hreported => hunreported ⟨rule, hwins, hreported⟩

/-- `rankedRoutes` with a route in front of the others. -/
def rankedRoutesWithAdmin : AppConfig :=
  { rankedRoutes with
    routes :=
      { id := "admin", path := .prefix_ "/admin", serviceId := some "admin"
        upstreamUrl := none, stripPrefix := none, priority := 5 } ::
        rankedRoutes.routes }

theorem diff_impact_ranked :
    ∃ left right,
      RouterSnapshot.fromConfig .plain rankedRoutes = .ok left ∧
      RouterSnapshot.fromConfig .plain rankedRoutesWithAdmin = .ok right ∧
      (Option.Rel CompiledRoutingRule.SameContent
        (left.resolvedRule .plain "/admin" "GET" ⟨[]⟩)
        (right.resolvedRule .plain "/admin" "GET" ⟨[]⟩) ∨
      ∃ rule,
        (left.resolvedRule .plain "/admin" "GET" ⟨[]⟩ = some rule ∨
          right.resolvedRule .plain "/admin" "GET" ⟨[]⟩ = some rule) ∧
        (diffAppConfigs .insertion rankedRoutes rankedRoutesWithAdmin
          "a.yaml" "b.yaml").Reports rule.id) := by
  have hties : UnreportedTieOrder .plain
      (diffAppConfigs .insertion rankedRoutes rankedRoutesWithAdmin
        "a.yaml" "b.yaml")
      rankedRoutes.routes rankedRoutesWithAdmin.routes "/admin" "GET"
      ⟨[]⟩ := by
    intro i i' j j' _ _ _ _ _ _ hpriority hlt
    have hdistinct : ∀ i i' : Fin rankedRoutes.routes.length,
        (rankedRoutes.routes.get i).priority =
          (rankedRoutes.routes.get i').priority → i = i' := by decide
    exact absurd (hdistinct i i' hpriority) (ne_of_lt hlt)
  exact ⟨_, _, rfl, rfl,
    diff_impact rfl rfl (by decide) (by decide) hties⟩

end ServiceRouter
