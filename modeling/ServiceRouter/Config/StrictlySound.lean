import ServiceRouter.Config.StripPrefix

/-!
# Configurations without findings

The strict check has nothing to report exactly if there are routes, their ids
and matchers differ, none covers a later one, each has one target, and each
prefix to strip can occur.
-/

namespace ServiceRouter

open Foundation

/-! ## The single passes -/

theorem routesEmptyFindings_eq_nil_iff {routes : List RoutingRule} :
    routesEmptyFindings routes = [] ↔ routes ≠ [] := by
  cases routes <;> simp [routesEmptyFindings]

theorem getD_lookup_foldl_countIds (routes : List RoutingRule)
    (counts : HashMap String Nat) (id : String) :
    ((routes.foldl (fun counts rule =>
        counts.insert rule.id ((counts.lookup rule.id).getD 0 + 1))
      counts).lookup id).getD 0 =
      (counts.lookup id).getD 0 + (routes.map RoutingRule.id).count id := by
  induction routes generalizing counts with
  | nil => rfl
  | cons rule routes ih =>
      rw [List.foldl_cons, ih, List.map_cons, List.count_cons]
      by_cases hid : rule.id = id
      · subst hid
        rw [AList.lookup_insert, if_pos (beq_self_eq_true _),
          Option.getD_some]
        omega
      · rw [AList.lookup_insert_ne (Ne.symm hid), if_neg (by simpa using hid)]
        omega

/-- An id is counted as often as routes have it. -/
theorem getD_lookup_countIds (routes : List RoutingRule) (id : String) :
    ((countIds routes).lookup id).getD 0 =
      (routes.map RoutingRule.id).count id := by
  rw [countIds, getD_lookup_foldl_countIds, AList.lookup_empty,
    Option.getD_none, Nat.zero_add]

theorem duplicateIdFindings_eq_nil_iff {iter : IterOrder}
    {routes : List RoutingRule} :
    duplicateIdFindings iter routes = [] ↔
      (routes.map RoutingRule.id).Nodup := by
  rw [duplicateIdFindings, List.filterMap_eq_nil_iff,
    List.nodup_iff_count_le_one]
  simp only [IterOrder.mem_order, ite_eq_right_iff, reduceCtorEq, imp_false,
    not_lt]
  constructor
  · intro h id
    rw [← getD_lookup_countIds]
    cases hcount : (countIds routes).lookup id with
    | none => exact Nat.zero_le 1
    | some count =>
        exact h ⟨id, count⟩ (List.of_mem_dlookup hcount)
  · rintro h ⟨id, count⟩ hentry
    have hcount := getD_lookup_countIds routes id
    rw [(AList.mem_lookup_iff).mpr hentry] at hcount
    exact hcount.trans_le (h id)

theorem forall_mem_laterPairs {α : Type} {items : List α} {p : α → α → Prop} :
    (∀ pair ∈ laterPairs items, p pair.1 pair.2) ↔ items.Pairwise p := by
  rw [List.pairwise_iff_forall_sublist]
  exact ⟨fun h a b hpair => h (a, b) (mem_laterPairs.mpr hpair),
    fun h pair hpair => h (mem_laterPairs.mp hpair)⟩

theorem identicalMatcherFindings_eq_nil_iff {routes : List RoutingRule} :
    identicalMatcherFindings routes = [] ↔
      routes.Pairwise fun left right => sameMatcher left right = false := by
  rw [identicalMatcherFindings, List.filterMap_eq_nil_iff,
    ← forall_mem_laterPairs]
  simp

theorem ruleShadowedFindings_eq_nil_iff {routes : List RoutingRule} :
    ruleShadowedFindings routes = [] ↔
      ∀ left right, PositionBefore RoutingRule.priority routes left right →
        ruleCovers (routes.get left) (routes.get right) = false := by
  rw [ruleShadowedFindings, List.map_eq_nil_iff, List.eq_nil_iff_forall_not_mem]
  simp only [Prod.forall, mem_shadowedPairs, not_and, Bool.not_eq_true]

theorem upstreamAndServiceIdFindings_eq_nil_iff {rule : RoutingRule} :
    upstreamAndServiceIdFindings rule = [] ↔
      rule.upstreamUrl = none ∨ rule.serviceId = none := by
  unfold upstreamAndServiceIdFindings
  cases rule.upstreamUrl <;> cases rule.serviceId <;> simp

theorem stripPrefixFindings_eq_nil_iff {rule : RoutingRule} :
    stripPrefixFindings rule = [] ↔
      ∀ p strip, rule.path = .prefix_ p → rule.stripPrefix = some strip →
        strip ≠ "" → p ≠ "/" → startsWith p strip = true := by
  constructor
  · intro hnil p strip hpath hstrip hne hroot
    rw [stripPrefixFindings_eq hpath hstrip] at hnil
    by_contra hfree
    rw [Bool.not_eq_true] at hfree
    simp [hfree, hne, hroot] at hnil
  · intro h
    cases hpath : rule.path with
    | prefix_ p =>
        cases hstrip : rule.stripPrefix with
        | none => simp [stripPrefixFindings, hpath, hstrip]
        | some strip =>
            rw [stripPrefixFindings_eq hpath hstrip]
            have happlies := h p strip hpath hstrip
            by_cases hne : strip = ""
            · simp [hne]
            · by_cases hroot : p = "/"
              · simp [hroot]
              · simp [happlies hne hroot]
    | exact value => simp [stripPrefixFindings, hpath]
    | glob value => simp [stripPrefixFindings, hpath]
    | regex value => simp [stripPrefixFindings, hpath]

/-! ## All passes -/

/-- What a configuration without findings is like. -/
structure AppConfig.StrictlySound (config : AppConfig) : Prop where
  routes_ne_nil : config.routes ≠ []
  ids : (config.routes.map RoutingRule.id).Nodup
  matchers : config.routes.Pairwise fun left right =>
    sameMatcher left right = false
  uncovered : ∀ left right,
    PositionBefore RoutingRule.priority config.routes left right →
      ruleCovers (config.routes.get left) (config.routes.get right) = false
  oneTarget : ∀ rule ∈ config.routes,
    rule.upstreamUrl = none ∨ rule.serviceId = none
  strips : ∀ rule ∈ config.routes, ∀ p strip,
    rule.path = .prefix_ p → rule.stripPrefix = some strip → strip ≠ "" →
      p ≠ "/" → startsWith p strip = true

theorem runStrictConfigChecks_eq_nil_iff {iter : IterOrder}
    {config : AppConfig} :
    runStrictConfigChecks iter config = [] ↔ config.StrictlySound := by
  simp only [runStrictConfigChecks, List.append_eq_nil_iff,
    List.flatMap_eq_nil_iff, routesEmptyFindings_eq_nil_iff,
    duplicateIdFindings_eq_nil_iff, identicalMatcherFindings_eq_nil_iff,
    ruleShadowedFindings_eq_nil_iff, upstreamAndServiceIdFindings_eq_nil_iff,
    stripPrefixFindings_eq_nil_iff]
  constructor
  · rintro ⟨⟨⟨⟨hroutes, hids⟩, hmatchers⟩, huncovered⟩, hrules⟩
    exact ⟨hroutes, hids, hmatchers, huncovered,
      fun rule hrule => (hrules rule hrule).1,
      fun rule hrule => (hrules rule hrule).2⟩
  · intro h
    exact ⟨⟨⟨⟨h.routes_ne_nil, h.ids⟩, h.matchers⟩, h.uncovered⟩,
      fun rule hrule => ⟨h.oneTarget rule hrule, h.strips rule hrule⟩⟩

end ServiceRouter
