import ServiceRouter.Config.StrictCheck
import ServiceRouter.Routing.Router

/-!
# Which route a request selects

`resolve` returns a place in the snapshot.  The snapshot stores the compiled
forms in evaluation order, so a place names one route of the configuration.
The selected route is the matching one that comes first by priority and then
by declaration position.
-/

namespace ServiceRouter

open Foundation

namespace RouterSnapshot

/-- The route of `config` whose compiled form `resolve` returns, when the
snapshot was built from `config`. -/
def resolvedRoute (P : Platform) (config : AppConfig)
    (snapshot : RouterSnapshot) (path method : String)
    (headers : HeaderMap) : Option (Fin config.routes.length) :=
  (snapshot.resolve P path method headers).bind fun place =>
    config.routeOrder[place.val]?

end RouterSnapshot

section Selection

variable {P : Platform} {config : AppConfig} {snapshot : RouterSnapshot}
  {form : Fin config.routes.length → CompiledRoutingRule}

private theorem findIdx?_rules (hforms : CompiledForms P config form)
    (hrules : snapshot.rules = config.routeOrder.map form)
    (path method : String) (headers : HeaderMap) :
    (snapshot.resolve P path method headers).map Fin.val =
      config.routeOrder.findIdx? fun k =>
        (config.routes.get k).matches P path method headers := by
  rw [RouterSnapshot.resolve, ← List.findIdx?_eq_map_findFinIdx?_val, hrules,
    List.findIdx?_map]
  congr 1
  funext k
  exact hforms.matches k path method headers

theorem resolvedRoute_eq_find? (hforms : CompiledForms P config form)
    (hrules : snapshot.rules = config.routeOrder.map form)
    (path method : String) (headers : HeaderMap) :
    snapshot.resolvedRoute P config path method headers =
      config.routeOrder.find? fun k =>
        (config.routes.get k).matches P path method headers := by
  rw [List.find?_eq_bind_findIdx?_getElem?,
    ← findIdx?_rules hforms hrules path method headers, Option.bind_map]
  rfl

theorem resolvedRule_eq_map (hrules : snapshot.rules = config.routeOrder.map form)
    (path method : String) (headers : HeaderMap) :
    snapshot.resolvedRule P path method headers =
      (snapshot.resolvedRoute P config path method headers).map form := by
  unfold RouterSnapshot.resolvedRule RouterSnapshot.resolvedRoute
  cases snapshot.resolve P path method headers with
  | none => rfl
  | some place =>
      have hlength : snapshot.rules.length = config.routeOrder.length := by
        rw [hrules, List.length_map]
      have hplace : place.val < config.routeOrder.length :=
        hlength ▸ place.isLt
      simp only [Option.map_some, Option.bind_some,
        List.getElem?_eq_getElem hplace, List.get_eq_getElem, Option.some.injEq]
      simp [hrules]

theorem resolvedRoute_eq_some_iff (hforms : CompiledForms P config form)
    (hrules : snapshot.rules = config.routeOrder.map form)
    {path method : String} {headers : HeaderMap}
    {k : Fin config.routes.length} :
    snapshot.resolvedRoute P config path method headers = some k ↔
      SelectedAt RoutingRule.priority
        (fun rule => rule.matches P path method headers) config.routes k := by
  rw [resolvedRoute_eq_find? hforms hrules]
  exact find?_stableOrder_eq_some_iff _
    (fun rule : RoutingRule => rule.matches P path method headers) _ k

theorem resolvedRoute_eq_none_iff (hforms : CompiledForms P config form)
    (hrules : snapshot.rules = config.routeOrder.map form)
    {path method : String} {headers : HeaderMap} :
    snapshot.resolvedRoute P config path method headers = none ↔
      ∀ k, (config.routes.get k).matches P path method headers = false := by
  rw [resolvedRoute_eq_find? hforms hrules, List.find?_eq_none]
  simp [AppConfig.routeOrder]

theorem resolve_eq_none_iff (hforms : CompiledForms P config form)
    (hrules : snapshot.rules = config.routeOrder.map form)
    {path method : String} {headers : HeaderMap} :
    snapshot.resolve P path method headers = none ↔
      ∀ k, (config.routes.get k).matches P path method headers = false := by
  rw [← Option.map_eq_none_iff (f := Fin.val),
    findIdx?_rules hforms hrules path method headers, List.findIdx?_eq_none_iff]
  simp [AppConfig.routeOrder]

end Selection

/-- Selection is exact, and the strict checks use the stored order. -/
theorem resolve_selects_least (P : Platform) (config : AppConfig)
    (hcompiles : ∀ rule ∈ config.routes,
      ∃ compiled, CompiledRoutingRule.compile P rule = .ok compiled) :
    ∃ snapshot form,
      RouterSnapshot.fromConfig P config = .ok snapshot ∧
      CompiledForms P config form ∧
      snapshot.rules =
        (routingEvaluationOrderIndices config.routes).map form ∧
      ∀ path method headers,
        snapshot.resolvedRule P path method headers =
          (snapshot.resolvedRoute P config path method headers).map form ∧
        (∀ k, snapshot.resolvedRoute P config path method headers = some k ↔
          (form k).matches P path method headers = true ∧
          ∀ j, (form j).matches P path method headers = true →
            ¬ toLex ((config.routes.get j).priority, j) <
                toLex ((config.routes.get k).priority, k)) ∧
        (snapshot.resolve P path method headers = none ↔
          ∀ k, (form k).matches P path method headers = false) := by
  obtain ⟨snapshot, hsnapshot⟩ := exists_fromConfig_iff.mpr hcompiles
  obtain ⟨form, hforms, hrules⟩ := fromConfig_eq_ok.mp hsnapshot
  refine ⟨snapshot, form, hsnapshot, hforms, ?_, fun path method headers =>
    ⟨resolvedRule_eq_map hrules path method headers, fun k => ?_, ?_⟩⟩
  · rw [hrules, routingEvaluationOrderIndices_eq, AppConfig.routeOrder]
  · rw [resolvedRoute_eq_some_iff hforms hrules]
    simp only [hforms.matches]
    rfl
  · rw [resolve_eq_none_iff hforms hrules]
    simp only [hforms.matches]

/-- Two routes that match the same requests at the same priority. -/
def tiedRoutes : AppConfig where
  routes := [
    { id := "first", path := .prefix_ "/api", serviceId := some "first"
      upstreamUrl := none, stripPrefix := none },
    { id := "second", path := .prefix_ "/api", serviceId := some "second"
      upstreamUrl := none, stripPrefix := none }]

theorem resolve_selects_least_tied :
    ∃ snapshot,
      RouterSnapshot.fromConfig .plain tiedRoutes = .ok snapshot ∧
      snapshot.resolvedRoute .plain tiedRoutes "/api/users" "GET" ⟨[]⟩ =
        some (0 : Fin 2) := by
  obtain ⟨snapshot, form, hsnapshot, hforms, -, hresolve⟩ :=
    resolve_selects_least .plain tiedRoutes
      (exists_fromConfig_iff.mp ⟨_, rfl⟩)
  refine ⟨snapshot, hsnapshot, ((hresolve _ _ _).2.1 (0 : Fin 2)).mpr ?_⟩
  have hleast : ∀ j : Fin 2,
      ¬ toLex ((tiedRoutes.routes.get j).priority, j) <
        toLex ((tiedRoutes.routes.get (0 : Fin 2)).priority, (0 : Fin 2)) := by
    decide
  exact ⟨(hforms.matches (0 : Fin 2) _ _ _).trans (by decide),
    fun j _ => hleast j⟩

end ServiceRouter
