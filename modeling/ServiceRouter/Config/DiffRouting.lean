import ServiceRouter.Config.Diff
import ServiceRouter.Routing.Selection

/-!
# What a clean diff says about routing

The diff compares routes by id; the router evaluates them by priority and
declaration position.  With unique ids a clean diff pairs the routes of both
configurations.  It does not see how equal priorities are ordered.
-/

namespace ServiceRouter

open Foundation

/-! ## Rules with the same content -/

structure CompiledRoutingRule.SameContent
    (left right : CompiledRoutingRule) : Prop where
  id : left.id = right.id
  compiledPath : left.compiledPath = right.compiledPath
  methods : left.methods = right.methods
  headers : Option.Rel HashMap.SameBindings left.headers right.headers
  serviceId : left.serviceId = right.serviceId
  upstreamUrl : left.upstreamUrl = right.upstreamUrl
  stripPrefix : left.stripPrefix = right.stripPrefix
  responseHeaders :
    Option.Rel List.Perm left.responseHeaders right.responseHeaders
  priority : left.priority = right.priority

private theorem compileOptionalHeaders_sameBindings {P : Platform}
    {routeId : String} {left right : Option (HashMap String String)}
    {leftHeaders rightHeaders : Option (List (HeaderName × HeaderValue))}
    (hsame : Option.Rel HashMap.SameBindings left right)
    (hleft : compileOptionalHeaders P routeId left = .ok leftHeaders)
    (hright : compileOptionalHeaders P routeId right = .ok rightHeaders) :
    Option.Rel List.Perm leftHeaders rightHeaders := by
  cases hsame with
  | none =>
      cases hleft
      cases hright
      exact .none
  | @some leftMap rightMap hperm =>
      have hempty : leftMap.entries.isEmpty = rightMap.entries.isEmpty :=
        hperm.isEmpty_eq
      simp only [compileOptionalHeaders] at hleft hright
      rw [hempty] at hleft
      cases hrightEmpty : rightMap.entries.isEmpty with
      | true =>
          rw [hrightEmpty] at hleft hright
          cases hleft
          cases hright
          exact .none
      | false =>
          rw [hrightEmpty] at hleft hright
          simp only [Bool.false_eq_true, if_false] at hleft hright
          cases hl : compileResponseHeaders P routeId leftMap with
          | error e => rw [hl] at hleft; cases hleft
          | ok l =>
              cases hr : compileResponseHeaders P routeId rightMap with
              | error e => rw [hr] at hright; cases hright
              | ok r =>
                  rw [hl] at hleft
                  rw [hr] at hright
                  cases hleft
                  cases hright
                  exact .some (mapM_perm hperm hl hr)

theorem compile_sameContent {P : Platform} {left right : RoutingRule}
    {leftRule rightRule : CompiledRoutingRule} (hsame : left.SameContent right)
    (hleft : CompiledRoutingRule.compile P left = .ok leftRule)
    (hright : CompiledRoutingRule.compile P right = .ok rightRule) :
    leftRule.SameContent rightRule := by
  obtain ⟨leftPath, leftHeaders, hlp, hlh, rfl⟩ := compile_eq_ok.mp hleft
  obtain ⟨rightPath, rightHeaders, hrp, hrh, rfl⟩ := compile_eq_ok.mp hright
  rw [← hsame.id, ← hsame.path, hlp] at hrp
  rw [← hsame.id] at hrh
  exact {
    id := hsame.id
    compiledPath := Except.ok.inj hrp
    methods := hsame.methods
    headers := hsame.headers
    serviceId := hsame.serviceId
    upstreamUrl := hsame.upstreamUrl
    stripPrefix := hsame.stripPrefix
    responseHeaders :=
      compileOptionalHeaders_sameBindings hsame.responseHeaders hlh hrh
    priority := hsame.priority }

private theorem headersMatch_sameBindings {P : Platform}
    {left right : Option (HashMap String String)}
    (hsame : Option.Rel HashMap.SameBindings left right) (headers : HeaderMap) :
    headersMatch P headers left = headersMatch P headers right := by
  cases hsame with
  | none => rfl
  | some hperm => exact hperm.all_eq

theorem RoutingRule.SameContent.matches_eq {left right : RoutingRule}
    (hsame : left.SameContent right) (P : Platform) (path method : String)
    (headers : HeaderMap) :
    left.matches P path method headers =
      right.matches P path method headers := by
  simp only [RoutingRule.matches, hsame.path, hsame.methods,
    headersMatch_sameBindings hsame.headers headers]

/-! ## Routes with the same JSON -/

theorem lookup_routesById {routes : List RoutingRule}
    (hunique : (routes.map RoutingRule.id).Nodup) (i : Fin routes.length) :
    (routesById routes).lookup (routes.get i).id = some (routes.get i) :=
  HashMap.lookup_collect_of_mem hunique (List.get_mem routes i)

theorem exists_get_of_lookup {routes : List RoutingRule} {id : String}
    {rule : RoutingRule} (h : (routesById routes).lookup id = some rule) :
    ∃ i, routes.get i = rule ∧ rule.id = id := by
  rw [routesById, HashMap.lookup_collect] at h
  obtain ⟨found, hfind, rfl⟩ := Option.map_eq_some_iff.mp h
  have hmem : found ∈ routes := by
    simpa using List.mem_of_find?_eq_some hfind
  obtain ⟨i, hi⟩ := List.get_of_mem hmem
  exact ⟨i, hi, by simpa using List.find?_some hfind⟩

/-- The routes with this id have the same JSON, or there are none. -/
def SameRouteAt (left right : List RoutingRule) (id : String) : Prop :=
  ((routesById left).lookup id).map RoutingRule.toValue =
    ((routesById right).lookup id).map RoutingRule.toValue

namespace SameRouteAt

variable {left right : List RoutingRule}

theorem sameContent {i : Fin left.length} {j : Fin right.length}
    (h : SameRouteAt left right (left.get i).id)
    (hleft : (left.map RoutingRule.id).Nodup)
    (hright : (right.map RoutingRule.id).Nodup)
    (hid : (left.get i).id = (right.get j).id) :
    (left.get i).SameContent (right.get j) := by
  rw [SameRouteAt, lookup_routesById hleft i, hid,
    lookup_routesById hright j] at h
  exact RoutingRule.sameContent_of_toValue_eq (Option.some.inj h)

theorem exists_right {i : Fin left.length}
    (h : SameRouteAt left right (left.get i).id)
    (hleft : (left.map RoutingRule.id).Nodup) :
    ∃ j : Fin right.length, (left.get i).id = (right.get j).id := by
  rw [SameRouteAt, lookup_routesById hleft i, Option.map_some] at h
  obtain ⟨rule, hrule, -⟩ := Option.map_eq_some_iff.mp h.symm
  obtain ⟨j, rfl, hid⟩ := exists_get_of_lookup hrule
  exact ⟨j, hid.symm⟩

theorem exists_left {j : Fin right.length}
    (h : SameRouteAt left right (right.get j).id)
    (hright : (right.map RoutingRule.id).Nodup) :
    ∃ i : Fin left.length, (left.get i).id = (right.get j).id := by
  rw [SameRouteAt, lookup_routesById hright j, Option.map_some] at h
  obtain ⟨rule, hrule, -⟩ := Option.map_eq_some_iff.mp h
  obtain ⟨i, rfl, hid⟩ := exists_get_of_lookup hrule
  exact ⟨i, hid⟩

end SameRouteAt

/-! ## Corresponding selections -/

section Corresponding

variable {P : Platform} {left right : AppConfig}
  {leftSnapshot rightSnapshot : RouterSnapshot}
  {path method : String} {headers : HeaderMap}

/-- Selections agree along a correspondence of routes with the same content
that covers both of them and keeps the order of ties. -/
theorem resolvedRoute_corresponds
    {leftForm : Fin left.routes.length → CompiledRoutingRule}
    {rightForm : Fin right.routes.length → CompiledRoutingRule}
    (hlf : CompiledForms P left leftForm)
    (hlr : leftSnapshot.rules = left.routeOrder.map leftForm)
    (hrf : CompiledForms P right rightForm)
    (hrr : rightSnapshot.rules = right.routeOrder.map rightForm)
    (same : Fin left.routes.length → Fin right.routes.length → Prop)
    (hcontent : ∀ i j, same i j →
      (left.routes.get i).SameContent (right.routes.get j))
    (hleft : ∀ i, leftSnapshot.resolvedRoute P left path method headers =
      some i → ∃ j, same i j)
    (hright : ∀ j, rightSnapshot.resolvedRoute P right path method headers =
      some j → ∃ i, same i j)
    (hties : ∀ i i' j j', same i j → same i' j' →
      (left.routes.get i).matches P path method headers = true →
      (left.routes.get i').matches P path method headers = true →
      (left.routes.get i).priority = (left.routes.get i').priority →
      i < i' → j < j') :
    Option.Rel same (leftSnapshot.resolvedRoute P left path method headers)
      (rightSnapshot.resolvedRoute P right path method headers) := by
  have hmatches {i : Fin left.routes.length} {j : Fin right.routes.length}
      (hij : same i j) := (hcontent i j hij).matches_eq P path method headers
  cases hl : leftSnapshot.resolvedRoute P left path method headers with
  | none =>
      cases hr : rightSnapshot.resolvedRoute P right path method headers with
      | none => exact .none
      | some j =>
          obtain ⟨i, hij⟩ := hright j hr
          rw [resolvedRoute_eq_none_iff hlf hlr] at hl
          rw [resolvedRoute_eq_some_iff hrf hrr] at hr
          exact absurd ((hmatches hij).trans hr.1)
            (Bool.eq_false_iff.mp (hl i))
  | some i =>
      obtain ⟨j', hij'⟩ := hleft i hl
      rw [resolvedRoute_eq_some_iff hlf hlr] at hl
      cases hr : rightSnapshot.resolvedRoute P right path method headers with
      | none =>
          rw [resolvedRoute_eq_none_iff hrf hrr] at hr
          exact absurd ((hmatches hij').symm.trans hl.1)
            (Bool.eq_false_iff.mp (hr j'))
      | some j =>
          have hcovered := hright j hr
          rw [resolvedRoute_eq_some_iff hrf hrr] at hr
          exact .some (hl.corresponds same hr ⟨j', hij'⟩ hcovered
            (fun i j hij => ⟨(hcontent i j hij).priority, hmatches hij⟩)
            hties)

/-- If the winners on both sides are among ids under which the routes agree, a
request whose ties among these are ordered alike resolves to rules with the
same content. -/
theorem resolves_alike_of_sameRouteAt (agreed : String → Prop)
    (hleft : RouterSnapshot.fromConfig P left = .ok leftSnapshot)
    (hright : RouterSnapshot.fromConfig P right = .ok rightSnapshot)
    (hleftIds : (left.routes.map RoutingRule.id).Nodup)
    (hrightIds : (right.routes.map RoutingRule.id).Nodup)
    (hagreed : ∀ id, agreed id → SameRouteAt left.routes right.routes id)
    (hwinners : ∀ rule,
      leftSnapshot.resolvedRule P path method headers = some rule ∨
        rightSnapshot.resolvedRule P path method headers = some rule →
      agreed rule.id)
    (hties : ∀ (i i' : Fin left.routes.length)
      (j j' : Fin right.routes.length),
      (left.routes.get i).id = (right.routes.get j).id →
      (left.routes.get i').id = (right.routes.get j').id →
      agreed (left.routes.get i).id → agreed (left.routes.get i').id →
      (left.routes.get i).matches P path method headers = true →
      (left.routes.get i').matches P path method headers = true →
      (left.routes.get i).priority = (left.routes.get i').priority →
      i < i' → j < j') :
    Option.Rel CompiledRoutingRule.SameContent
      (leftSnapshot.resolvedRule P path method headers)
      (rightSnapshot.resolvedRule P path method headers) := by
  obtain ⟨leftForm, hlf, hlr⟩ := fromConfig_eq_ok.mp hleft
  obtain ⟨rightForm, hrf, hrr⟩ := fromConfig_eq_ok.mp hright
  rw [resolvedRule_eq_map hlr, resolvedRule_eq_map hrr] at hwinners ⊢
  have hcontent (i : Fin left.routes.length) (j : Fin right.routes.length)
      (h : (left.routes.get i).id = (right.routes.get j).id ∧
        agreed (left.routes.get i).id) :=
    (hagreed _ h.2).sameContent hleftIds hrightIds h.1
  have hleftWinner (i : Fin left.routes.length)
      (hi : leftSnapshot.resolvedRoute P left path method headers = some i) :
      agreed (left.routes.get i).id := by
    rw [← compile_id (hlf i)]
    exact hwinners (leftForm i) (.inl (by rw [hi]; rfl))
  have hrightWinner (j : Fin right.routes.length)
      (hj : rightSnapshot.resolvedRoute P right path method headers =
        some j) :
      agreed (right.routes.get j).id := by
    rw [← compile_id (hrf j)]
    exact hwinners (rightForm j) (.inr (by rw [hj]; rfl))
  have hrelated := resolvedRoute_corresponds hlf hlr hrf hrr _ hcontent
    (fun i hi =>
      have ⟨j, hid⟩ := (hagreed _ (hleftWinner i hi)).exists_right hleftIds
      ⟨j, hid, hleftWinner i hi⟩)
    (fun j hj =>
      have ⟨i, hid⟩ := (hagreed _ (hrightWinner j hj)).exists_left hrightIds
      ⟨i, hid, hid ▸ hrightWinner j hj⟩)
    (fun i i' j j' h h' => hties i i' j j' h.1 h'.1 h.2 h'.2)
  cases hl : leftSnapshot.resolvedRoute P left path method headers <;>
    cases hr : rightSnapshot.resolvedRoute P right path method headers <;>
    rw [hl, hr] at hrelated <;> cases hrelated
  · exact .none
  · next h => exact .some (compile_sameContent (hcontent _ _ h) (hlf _) (hrf _))

end Corresponding

/-! ## Routing after a clean diff -/

/-- Two routes of equal priority that the request matches are declared in the
same relative order in both lists. -/
def SameTieOrder (P : Platform) (left right : List RoutingRule)
    (path method : String) (headers : HeaderMap) : Prop :=
  ∀ (i i' : Fin left.length) (j j' : Fin right.length),
    (left.get i).id = (right.get j).id →
    (left.get i').id = (right.get j').id →
    (left.get i).matches P path method headers = true →
    (left.get i').matches P path method headers = true →
    (left.get i).priority = (left.get i').priority → i < i' → j < j'

/-- After a clean diff of configurations with unique ids, a request whose ties
are ordered alike resolves to rules with the same content. -/
theorem clean_diff_resolves_alike {P : Platform} {left right : AppConfig}
    {leftSnapshot rightSnapshot : RouterSnapshot} {iter : IterOrder}
    {leftPath rightPath : String}
    (hleft : RouterSnapshot.fromConfig P left = .ok leftSnapshot)
    (hright : RouterSnapshot.fromConfig P right = .ok rightSnapshot)
    (hclean :
      (diffAppConfigs iter left right leftPath rightPath).identical = true)
    (hleftIds : (left.routes.map RoutingRule.id).Nodup)
    (hrightIds : (right.routes.map RoutingRule.id).Nodup)
    {path method : String} {headers : HeaderMap}
    (hties : SameTieOrder P left.routes right.routes path method headers) :
    Option.Rel CompiledRoutingRule.SameContent
      (leftSnapshot.resolvedRule P path method headers)
      (rightSnapshot.resolvedRule P path method headers) := by
  have hroutes := (diffAppConfigs_identical.mp hclean).2.2.2
  exact resolves_alike_of_sameRouteAt (fun _ => True) hleft hright hleftIds
    hrightIds (fun id _ => diffRoutesById_eq_nil_iff.mp hroutes id)
    (fun _ _ => trivial)
    (fun i i' j j' hid hid' _ _ => hties i i' j j' hid hid')

def rankedRoutes : AppConfig where
  routes := [
    { id := "high", path := .prefix_ "/api", serviceId := some "high"
      upstreamUrl := none, stripPrefix := none, priority := 10 },
    { id := "low", path := .prefix_ "/", serviceId := some "low"
      upstreamUrl := none, stripPrefix := none, priority := 20 }]

def rankedRoutesSwapped : AppConfig :=
  { rankedRoutes with routes := rankedRoutes.routes.reverse }

theorem clean_diff_resolves_alike_ranked :
    ∃ left right,
      RouterSnapshot.fromConfig .plain rankedRoutes = .ok left ∧
      RouterSnapshot.fromConfig .plain rankedRoutesSwapped = .ok right ∧
      Option.Rel CompiledRoutingRule.SameContent
        (left.resolvedRule .plain "/api" "GET" ⟨[]⟩)
        (right.resolvedRule .plain "/api" "GET" ⟨[]⟩) := by
  have hclean : (diffAppConfigs .insertion rankedRoutes rankedRoutesSwapped
      "a.yaml" "b.yaml").identical = true := by
    rw [diffAppConfigs_identical]
    refine ⟨diffJsonLeaf_self _ _ _, rfl, diffJsonLeaf_self _ _ _, ?_⟩
    decide
  have hties : SameTieOrder .plain rankedRoutes.routes
      rankedRoutesSwapped.routes "/api" "GET" ⟨[]⟩ := by
    intro i i' j j' _ _ _ _ hpriority hlt
    have hdistinct : ∀ i i' : Fin rankedRoutes.routes.length,
        (rankedRoutes.routes.get i).priority =
          (rankedRoutes.routes.get i').priority → i = i' := by decide
    exact absurd (hdistinct i i' hpriority) (ne_of_lt hlt)
  exact ⟨_, _, rfl, rfl, clean_diff_resolves_alike rfl rfl hclean
    (by decide) (by decide) hties⟩

/-- The routes of `tiedRoutes` in the other order. -/
def tiedRoutesSwapped : AppConfig :=
  { tiedRoutes with routes := tiedRoutes.routes.reverse }

/-- Two routes with one id; only the later one counts in the diff. -/
def repeatedIdRoutes : AppConfig where
  routes := [
    { id := "api", path := .prefix_ "/api", serviceId := some "old"
      upstreamUrl := none, stripPrefix := none },
    { id := "api", path := .prefix_ "/api", serviceId := some "new"
      upstreamUrl := none, stripPrefix := none }]

def lastOfRepeatedId : AppConfig :=
  { repeatedIdRoutes with routes := repeatedIdRoutes.routes.tail }

/-- A clean diff hides the order of tied routes and all but the last route of
an id; both change where a request goes. -/
theorem clean_diff_resolves_differently :
    (∃ left right,
      RouterSnapshot.fromConfig .plain tiedRoutes = .ok left ∧
      RouterSnapshot.fromConfig .plain tiedRoutesSwapped = .ok right ∧
      (diffAppConfigs .insertion tiedRoutes tiedRoutesSwapped
        "a.yaml" "b.yaml").identical = true ∧
      (left.resolvedRule .plain "/api" "GET" ⟨[]⟩).map (·.serviceId) =
        some (some "first") ∧
      (right.resolvedRule .plain "/api" "GET" ⟨[]⟩).map (·.serviceId) =
        some (some "second")) ∧
    ∃ left right,
      RouterSnapshot.fromConfig .plain repeatedIdRoutes = .ok left ∧
      RouterSnapshot.fromConfig .plain lastOfRepeatedId = .ok right ∧
      (diffAppConfigs .insertion repeatedIdRoutes lastOfRepeatedId
        "a.yaml" "b.yaml").identical = true ∧
      (left.resolvedRule .plain "/api" "GET" ⟨[]⟩).map (·.serviceId) =
        some (some "old") ∧
      (right.resolvedRule .plain "/api" "GET" ⟨[]⟩).map (·.serviceId) =
        some (some "new") := by
  refine ⟨⟨_, _, rfl, rfl, ?_, by decide, by decide⟩,
    ⟨_, _, rfl, rfl, ?_, by decide, by decide⟩⟩
  · rw [diffAppConfigs_identical]
    refine ⟨diffJsonLeaf_self _ _ _, rfl, diffJsonLeaf_self _ _ _, ?_⟩
    decide
  · rw [diffAppConfigs_identical]
    refine ⟨diffJsonLeaf_self _ _ _, rfl, diffJsonLeaf_self _ _ _, ?_⟩
    decide

end ServiceRouter
