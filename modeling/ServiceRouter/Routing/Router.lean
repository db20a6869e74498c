import ServiceRouter.Foundation.Fallible
import ServiceRouter.Foundation.StableSort
import ServiceRouter.Routing.Matcher

/-!
# Router snapshots

A snapshot holds the compiled rules in evaluation order.  `resolve` returns a
reference into the snapshot, as the source does: two rules with equal contents
at different places are different rules.
-/

namespace ServiceRouter

open Foundation

structure RouterSnapshot where
  rules : List CompiledRoutingRule

namespace RouterSnapshot

def fromConfig (P : Platform) (config : AppConfig) :
    Except ConfigError RouterSnapshot := do
  let rules ← config.routes.mapM (CompiledRoutingRule.compile P)
  -- Stable: ties in priority preserve declaration order.
  return { rules := sortByKey CompiledRoutingRule.priority rules }

/-- The first rule, in priority order, all of whose matchers pass. -/
def resolve (P : Platform) (snapshot : RouterSnapshot) (path method : String)
    (headers : HeaderMap) : Option (Fin snapshot.rules.length) :=
  snapshot.rules.findFinIdx? fun rule => rule.matches P path method headers

def resolvedRule (P : Platform) (snapshot : RouterSnapshot)
    (path method : String) (headers : HeaderMap) :
    Option CompiledRoutingRule :=
  (snapshot.resolve P path method headers).map snapshot.rules.get

end RouterSnapshot

/-! ## Compiling all routes -/

/-- The routes of a configuration in the order the router evaluates them. -/
def AppConfig.routeOrder (config : AppConfig) :
    List (Fin config.routes.length) :=
  stableOrder RoutingRule.priority config.routes

def CompiledForms (P : Platform) (config : AppConfig)
    (form : Fin config.routes.length → CompiledRoutingRule) : Prop :=
  ∀ k, CompiledRoutingRule.compile P (config.routes.get k) = .ok (form k)

theorem CompiledForms.priority {P : Platform} {config : AppConfig}
    {form : Fin config.routes.length → CompiledRoutingRule}
    (h : CompiledForms P config form) (k : Fin config.routes.length) :
    (form k).priority = (config.routes.get k).priority :=
  compile_priority (h k)

theorem CompiledForms.matches {P : Platform} {config : AppConfig}
    {form : Fin config.routes.length → CompiledRoutingRule}
    (h : CompiledForms P config form) (k : Fin config.routes.length)
    (path method : String) (headers : HeaderMap) :
    (form k).matches P path method headers =
      (config.routes.get k).matches P path method headers :=
  compile_matches (h k) path method headers

private theorem mapM_compile_eq_ok_iff {P : Platform} {config : AppConfig}
    {compiled : List CompiledRoutingRule} :
    config.routes.mapM (CompiledRoutingRule.compile P) = .ok compiled ↔
      ∃ form, CompiledForms P config form ∧
        compiled = (List.finRange config.routes.length).map form := by
  rw [mapM_eq_ok_iff]
  constructor
  · intro h
    have hlength := h.length_eq
    refine ⟨fun k => compiled.get (k.cast hlength), fun k => ?_, ?_⟩
    · exact h.get k.isLt (hlength ▸ k.isLt)
    · refine List.ext_get (by simp [hlength]) fun i _ _ => ?_
      simp
  · rintro ⟨form, hform, rfl⟩
    rw [List.forall₂_iff_get]
    refine ⟨by simp, fun i hi _ => ?_⟩
    simpa using hform ⟨i, hi⟩

/-- A snapshot stores the compiled forms of the routes in evaluation order. -/
theorem fromConfig_eq_ok {P : Platform} {config : AppConfig}
    {snapshot : RouterSnapshot} :
    RouterSnapshot.fromConfig P config = .ok snapshot ↔
      ∃ form, CompiledForms P config form ∧
        snapshot.rules = config.routeOrder.map form := by
  have hsort (form : Fin config.routes.length → CompiledRoutingRule)
      (hform : CompiledForms P config form) :
      sortByKey CompiledRoutingRule.priority
          ((List.finRange config.routes.length).map form) =
        config.routeOrder.map form := by
    rw [← map_sortByKey, AppConfig.routeOrder, stableOrder_eq_sort_positions]
    simp only [hform.priority]
  unfold RouterSnapshot.fromConfig
  cases hmap : config.routes.mapM (CompiledRoutingRule.compile P) with
  | error e =>
      simp only [bind, Except.bind, reduceCtorEq, false_iff, not_exists,
        not_and]
      intro form hform _
      rw [mapM_compile_eq_ok_iff.mpr ⟨form, hform, rfl⟩] at hmap
      cases hmap
  | ok compiled =>
      obtain ⟨form, hform, rfl⟩ := mapM_compile_eq_ok_iff.mp hmap
      simp only [bind, Except.bind, pure, Except.pure, Except.ok.injEq]
      rw [hsort form hform]
      constructor
      · rintro rfl
        exact ⟨form, hform, rfl⟩
      · rintro ⟨form', hform', hrules⟩
        have hsame : form' = form := by
          funext k
          have := (hform' k).symm.trans (hform k)
          exact Except.ok.inj this
        cases snapshot
        simp only at hrules
        rw [hrules, hsame]

theorem fromConfig_eq_sort {P : Platform} {config : AppConfig}
    {snapshot : RouterSnapshot} :
    RouterSnapshot.fromConfig P config = .ok snapshot ↔
      ∃ compiled,
        config.routes.mapM (CompiledRoutingRule.compile P) = .ok compiled ∧
        snapshot.rules = sortByKey CompiledRoutingRule.priority compiled := by
  unfold RouterSnapshot.fromConfig
  rw [bind_eq_ok_iff]
  refine exists_congr fun compiled => and_congr_right fun _ => ?_
  obtain ⟨rules⟩ := snapshot
  simp [pure, Except.pure, eq_comm]

theorem length_of_fromConfig {P : Platform} {config : AppConfig}
    {snapshot : RouterSnapshot}
    (h : RouterSnapshot.fromConfig P config = .ok snapshot) :
    snapshot.rules.length = config.routes.length := by
  obtain ⟨form, -, hrules⟩ := fromConfig_eq_ok.mp h
  rw [hrules, List.length_map, AppConfig.routeOrder, length_stableOrder]

theorem exists_fromConfig_iff {P : Platform} {config : AppConfig} :
    (∃ snapshot, RouterSnapshot.fromConfig P config = .ok snapshot) ↔
      ∀ rule ∈ config.routes,
        ∃ compiled, CompiledRoutingRule.compile P rule = .ok compiled := by
  constructor
  · rintro ⟨snapshot, h⟩ rule hrule
    obtain ⟨form, hform, -⟩ := fromConfig_eq_ok.mp h
    obtain ⟨k, rfl⟩ := List.get_of_mem hrule
    exact ⟨form k, hform k⟩
  · intro h
    choose form hform using fun k : Fin config.routes.length =>
      h (config.routes.get k) (List.get_mem _ _)
    exact ⟨⟨config.routeOrder.map form⟩,
      fromConfig_eq_ok.mpr ⟨form, hform, rfl⟩⟩

end ServiceRouter
