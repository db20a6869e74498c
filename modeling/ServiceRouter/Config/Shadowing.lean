import ServiceRouter.Routing.Selection

/-!
# What a shadowing finding says about requests

The path and method tests of a finding are sound: whatever the later rule
accepts, the earlier rule accepts.  The header test looks the other way: it
asks that the earlier rule demands whatever the later one demands.  The
headers that only the earlier rule demands decide whether a finding is true.
-/

namespace ServiceRouter

open Foundation

/-! ## The coverage tests against the match conditions -/

theorem pathMatcherCovers_sound {P : Platform} {left right : PathMatcher}
    (hcovers : pathMatcherCovers left right = true) {path : String}
    (hright : right.matches P path = true) : left.matches P path = true := by
  cases left <;> cases right <;>
    simp only [pathMatcherCovers, PathMatcher.matches, beq_iff_eq,
      reduceCtorEq] at hcovers hright ⊢
  case exact.exact le re => rw [hcovers, hright]
  case prefix_.exact lp re => rw [← hright]; exact hcovers
  case prefix_.prefix_ lp rp => exact startsWith_trans hright hcovers

theorem methodConstraintsCover_sound {P : Platform}
    {left right : Option (List String)}
    (hcovers : methodConstraintsCover left right = true) {method : String}
    (hright : methodMatches P method right = true) :
    methodMatches P method left = true := by
  cases left with
  | none => rfl
  | some l =>
      cases right with
      | none => simp [methodConstraintsCover] at hcovers
      | some r =>
          obtain ⟨rm, hrm, hmethod⟩ := List.any_eq_true.mp hright
          obtain ⟨lm, hlm, hsame⟩ :=
            List.any_eq_true.mp (List.all_eq_true.mp hcovers rm hrm)
          refine List.any_eq_true.mpr ⟨lm, hlm, ?_⟩
          rw [P.caseMapping.toUppercase_eq_of_eqIgnoreAsciiCase hsame]
          exact hmethod

def RoutingRule.DemandsHeader (rule : RoutingRule) (name expected : String) :
    Prop :=
  ∃ map, rule.headers = some map ∧ map.lookup name = some expected

theorem headersMatch_iff {P : Platform} {rule : RoutingRule}
    {requestHeaders : HeaderMap} :
    headersMatch P requestHeaders rule.headers = true ↔
      ∀ name expected, rule.DemandsHeader name expected →
        headerMatches P requestHeaders name expected = true := by
  unfold RoutingRule.DemandsHeader
  cases rule.headers with
  | none => simp [headersMatch]
  | some map =>
      simp only [headersMatch, List.all_eq_true, Option.some.injEq,
        exists_eq_left']
      constructor
      · intro hall name expected hlookup
        exact hall ⟨name, expected⟩ (AList.mem_lookup_iff.mp hlookup)
      · rintro hall ⟨name, expected⟩ hentry
        exact hall name expected (AList.mem_lookup_iff.mpr hentry)

theorem RoutingRule.matches_iff {P : Platform} {rule : RoutingRule}
    {path method : String} {headers : HeaderMap} :
    rule.matches P path method headers = true ↔
      rule.path.matches P path = true ∧
        methodMatches P method rule.methods = true ∧
        headersMatch P headers rule.headers = true := by
  simp only [RoutingRule.matches, Bool.and_eq_true, and_assoc]

/-- A covering rule that rejects a request the covered rule accepts rejects it
for a header that the covered rule does not demand. -/
theorem exists_extraDemand_of_not_matches {P : Platform}
    {left right : RoutingRule} (hcovers : ruleCovers left right = true)
    {path method : String} {headers : HeaderMap}
    (hright : right.matches P path method headers = true)
    (hleft : left.matches P path method headers = false) :
    ∃ name expected, left.DemandsHeader name expected ∧
      ¬ right.DemandsHeader name expected ∧
      headerMatches P headers name expected = false := by
  simp only [ruleCovers, Bool.and_eq_true] at hcovers
  obtain ⟨⟨hmethods, -⟩, hpath⟩ := hcovers
  obtain ⟨hrpath, hrmethod, hrheaders⟩ := RoutingRule.matches_iff.mp hright
  have hfail : ¬ headersMatch P headers left.headers = true := by
    intro hlheaders
    rw [RoutingRule.matches_iff.mpr
      ⟨pathMatcherCovers_sound hpath hrpath,
        methodConstraintsCover_sound hmethods hrmethod, hlheaders⟩] at hleft
    cases hleft
  rw [headersMatch_iff] at hfail
  simp only [not_forall, exists_prop] at hfail
  obtain ⟨name, expected, hdemand, hrejects⟩ := hfail
  refine ⟨name, expected, hdemand, fun hrdemand => hrejects ?_, ?_⟩
  · exact headersMatch_iff.mp hrheaders name expected hrdemand
  · simpa using hrejects

/-! ## Routes that are never selected -/

/-- No request is resolved to the route at `right`. -/
def NeverResolved (P : Platform) (config : AppConfig)
    (snapshot : RouterSnapshot) (right : Fin config.routes.length) : Prop :=
  ∀ path method headers,
    snapshot.resolvedRoute P config path method headers ≠ some right

def AppConfig.deleteRoute (config : AppConfig)
    (right : Fin config.routes.length) : AppConfig :=
  { config with routes := config.routes.eraseIdx right }

/-- Without the route at `right` every request is resolved as before. -/
def DeletionUnchanged (P : Platform) (config : AppConfig)
    (snapshot : RouterSnapshot) (right : Fin config.routes.length) : Prop :=
  ∃ remaining,
    RouterSnapshot.fromConfig P (config.deleteRoute right) = .ok remaining ∧
    ∀ path method headers,
      (remaining.resolvedRoute P (config.deleteRoute right)
          path method headers).map (keptPosition config.routes right) =
        snapshot.resolvedRoute P config path method headers

section

variable {P : Platform} {config : AppConfig} {snapshot : RouterSnapshot}

theorem neverResolved_iff
    (hsnapshot : RouterSnapshot.fromConfig P config = .ok snapshot)
    {right : Fin config.routes.length} :
    NeverResolved P config snapshot right ↔
      ∀ path method headers,
        (config.routes.get right).matches P path method headers = true →
        ∃ j, (config.routes.get j).matches P path method headers = true ∧
          PositionBefore RoutingRule.priority config.routes j right := by
  obtain ⟨form, hforms, hrules⟩ := fromConfig_eq_ok.mp hsnapshot
  simp only [NeverResolved, ne_eq, resolvedRoute_eq_some_iff hforms hrules,
    SelectedAt, not_and, not_forall, not_not, exists_prop]

theorem neverResolved_iff_deletionUnchanged
    (hsnapshot : RouterSnapshot.fromConfig P config = .ok snapshot)
    (right : Fin config.routes.length) :
    NeverResolved P config snapshot right ↔
      DeletionUnchanged P config snapshot right := by
  obtain ⟨form, hforms, hrules⟩ := fromConfig_eq_ok.mp hsnapshot
  obtain ⟨remaining, hremaining⟩ :
      ∃ remaining, RouterSnapshot.fromConfig P (config.deleteRoute right) =
        .ok remaining := by
    refine exists_fromConfig_iff.mpr fun rule hrule => ?_
    exact exists_fromConfig_iff.mp ⟨snapshot, hsnapshot⟩ rule
      (List.mem_of_mem_eraseIdx hrule)
  obtain ⟨form', hforms', hrules'⟩ := fromConfig_eq_ok.mp hremaining
  have hrequest (path method : String) (headers : HeaderMap) :
      (remaining.resolvedRoute P (config.deleteRoute right)
          path method headers).map (keptPosition config.routes right) =
        snapshot.resolvedRoute P config path method headers ↔
      snapshot.resolvedRoute P config path method headers ≠ some right := by
    rw [ne_eq, resolvedRoute_eq_some_iff hforms hrules,
      resolvedRoute_eq_find? hforms hrules,
      resolvedRoute_eq_find? hforms' hrules']
    exact find?_eraseIdx_eq_iff _
      (fun rule : RoutingRule => rule.matches P path method headers) _ right
  constructor
  · intro hnever
    exact ⟨remaining, hremaining, fun path method headers =>
      (hrequest path method headers).mpr (hnever path method headers)⟩
  · rintro ⟨remaining', hremaining', hsame⟩ path method headers
    obtain rfl := Except.ok.inj (hremaining.symm.trans hremaining')
    exact (hrequest path method headers).mp (hsame path method headers)

end

/-! ## When the findings are true -/

/-- Wherever `left` demands a header that `right` does not demand, the requests
`right` accepts without it are accepted by a third route before `right`. -/
def ExtraDemandsTaken (P : Platform) (routes : List RoutingRule)
    (left right : Fin routes.length) : Prop :=
  ∀ name expected, (routes.get left).DemandsHeader name expected →
    ¬ (routes.get right).DemandsHeader name expected →
    ∀ path method headers,
      (routes.get right).matches P path method headers = true →
      headerMatches P headers name expected = false →
      ∃ third, third ≠ left ∧
        PositionBefore RoutingRule.priority routes third right ∧
        (routes.get third).matches P path method headers = true

private theorem neverResolved_iff_extraDemandsTaken {P : Platform}
    {config : AppConfig} {snapshot : RouterSnapshot}
    (hsnapshot : RouterSnapshot.fromConfig P config = .ok snapshot)
    {left right : Fin config.routes.length}
    (hpair : (left, right) ∈ shadowedPairs config.routes) :
    NeverResolved P config snapshot right ↔
      ExtraDemandsTaken P config.routes left right := by
  obtain ⟨hbefore, hcovers⟩ := mem_shadowedPairs.mp hpair
  rw [neverResolved_iff hsnapshot]
  constructor
  · intro hnever name expected hdemand _ path method headers hright hrejects
    obtain ⟨third, hthird, hthirdBefore⟩ :=
      hnever path method headers hright
    refine ⟨third, ?_, hthirdBefore, hthird⟩
    rintro rfl
    have hheaders := (RoutingRule.matches_iff.mp hthird).2.2
    rw [headersMatch_iff.mp hheaders name expected hdemand] at hrejects
    cases hrejects
  · intro htaken path method headers hright
    cases hleft : (config.routes.get left).matches P path method headers with
    | true => exact ⟨left, hleft, hbefore⟩
    | false =>
        obtain ⟨name, expected, hdemand, hextra, hrejects⟩ :=
          exists_extraDemand_of_not_matches hcovers hright hleft
        obtain ⟨third, -, hthirdBefore, hthird⟩ := htaken name expected
          hdemand hextra path method headers hright hrejects
        exact ⟨third, hthird, hthirdBefore⟩

/-- The shadowing findings are true exactly if, for every reported pair, the
extra header demands of the covering rule are taken by third routes. -/
theorem shadowing_findings_true_iff {P : Platform} {config : AppConfig}
    {snapshot : RouterSnapshot}
    (hsnapshot : RouterSnapshot.fromConfig P config = .ok snapshot) :
    (∀ iter, (runStrictConfigChecks iter config).filter
        (fun finding => finding.code = "RULE_SHADOWED") =
      (shadowedPairs config.routes).map fun pair =>
        ruleShadowedFinding (config.routes.get pair.1)
          (config.routes.get pair.2)) ∧
    ((∀ pair ∈ shadowedPairs config.routes,
        NeverResolved P config snapshot pair.2) ↔
      ∀ pair ∈ shadowedPairs config.routes,
        ExtraDemandsTaken P config.routes pair.1 pair.2) ∧
    ∀ right, NeverResolved P config snapshot right ↔
      DeletionUnchanged P config snapshot right := by
  refine ⟨fun iter => filter_ruleShadowed iter config, ?_,
    neverResolved_iff_deletionUnchanged hsnapshot⟩
  refine forall₂_congr fun pair hpair => ?_
  exact neverResolved_iff_extraDemandsTaken hsnapshot hpair

/-- A catch-all route before a route for `/api`, without header demands. -/
def catchAllRoutes : AppConfig where
  routes := [
    { id := "all", path := .prefix_ "/", serviceId := some "all"
      upstreamUrl := none, stripPrefix := none },
    { id := "api", path := .prefix_ "/api", serviceId := some "api"
      upstreamUrl := none, stripPrefix := none }]

theorem shadowing_findings_true_catchAll :
    ∃ snapshot,
      RouterSnapshot.fromConfig .plain catchAllRoutes = .ok snapshot ∧
      NeverResolved .plain catchAllRoutes snapshot ⟨1, by decide⟩ := by
  have hcompiled :
      ∃ snapshot, RouterSnapshot.fromConfig .plain catchAllRoutes =
        .ok snapshot := ⟨_, rfl⟩
  obtain ⟨snapshot, hsnapshot⟩ := hcompiled
  refine ⟨snapshot, hsnapshot, ?_⟩
  have hnone (k) : (catchAllRoutes.routes.get k).headers = none := by
    revert k
    decide
  refine (shadowing_findings_true_iff hsnapshot).2.1.mpr ?_
    (⟨0, by decide⟩, ⟨1, by decide⟩) (by decide)
  rintro pair - name expected ⟨map, hmap, -⟩
  rw [hnone] at hmap
  cases hmap

/-- The earlier route demands two headers, the later one only the first. -/
def twoHeaderRoutes : AppConfig where
  routes := [
    { id := "both", path := .prefix_ "/"
      headers := some ((AList.singleton "x-a" "1").insert "x-b" "2")
      serviceId := some "both", upstreamUrl := none, stripPrefix := none },
    { id := "one", path := .prefix_ "/"
      headers := some (AList.singleton "x-a" "1")
      serviceId := some "one", upstreamUrl := none, stripPrefix := none }]

/-- The request that carries only the first header reaches the later route. -/
theorem shadowing_finding_false_twoHeaders :
    ∃ snapshot,
      RouterSnapshot.fromConfig .plain twoHeaderRoutes = .ok snapshot ∧
      (⟨0, by decide⟩, ⟨1, by decide⟩) ∈ shadowedPairs twoHeaderRoutes.routes ∧
      ¬ NeverResolved .plain twoHeaderRoutes snapshot ⟨1, by decide⟩ := by
  refine ⟨_, rfl, by decide, fun hnever => ?_⟩
  refine hnever "/" "GET" ⟨[(⟨"x-a", by decide⟩, ⟨[49]⟩)]⟩ ?_
  decide

end ServiceRouter
