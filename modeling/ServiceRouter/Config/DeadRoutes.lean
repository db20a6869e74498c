import ServiceRouter.Config.ShadowCompleteness
import ServiceRouter.Foundation.FreshLetter

/-!
# Dead routes

Shadowing is tested for one pair of routes at a time, while several earlier
routes together may take every request of a later one.  For a route without
constraints on the method and the headers they cannot: some request of the
route is new to all the earlier routes that do not cover it alone.
-/

namespace ServiceRouter

open Foundation

/-- The text of a matcher. -/
def PathMatcher.value : PathMatcher → String
  | .exact value => value
  | .prefix_ value => value
  | .glob value => value
  | .regex value => value

/-- Every request with a path of the route is one of the route. -/
def RoutingRule.Unconstrained (rule : RoutingRule) : Prop :=
  rule.methods = none ∧ rule.headers = none

/-- A header map is absent or demands some header. -/
def RoutingRule.HeadersDemand (rule : RoutingRule) : Prop :=
  ∀ map, rule.headers = some map → ∃ name, (map.lookup name).isSome = true

/-! ## A request that only covering routes accept -/

/-- A path of `path` that no plain matcher of the list matches unless it covers
`path`. -/
theorem exists_path_of_coverers (P : Platform) {path : PathMatcher}
    (hplain : path.isPlain = true) {routes : List RoutingRule}
    (hfew : routes.length < 55296) :
    ∃ text, path.matches P text = true ∧
      ∀ rule ∈ routes, rule.path.isPlain = true →
        rule.path.matches P text = true →
        pathMatcherCovers rule.path path = true := by
  have hwords : (routes.map fun rule => rule.path.value.toList).length <
      basicChars.length := by
    rwa [List.length_map, length_basicChars]
  obtain ⟨c, -, hfresh⟩ := exists_fresh_letter nodup_basicChars hwords
    path.value.toList
  cases path with
  | glob value => cases hplain
  | regex value => cases hplain
  | exact re =>
      refine ⟨re, by simp [PathMatcher.matches], fun rule _ hrule hmatches => ?_⟩
      cases hleft : rule.path with
      | glob value => simp [hleft, PathMatcher.isPlain] at hrule
      | regex value => simp [hleft, PathMatcher.isPlain] at hrule
      | exact le => rwa [hleft] at hmatches
      | prefix_ lp => rwa [hleft] at hmatches
  | prefix_ rp =>
      refine ⟨String.ofList (rp.toList ++ [c]), ?_,
        fun rule hmem hrule hmatches => ?_⟩
      · simp [PathMatcher.matches, startsWith_iff]
      · have hnew : ¬ rp.toList ++ [c] <+: rule.path.value.toList :=
          hfresh _ (List.mem_map.mpr ⟨rule, hmem, rfl⟩)
        cases hleft : rule.path with
        | glob value => simp [hleft, PathMatcher.isPlain] at hrule
        | regex value => simp [hleft, PathMatcher.isPlain] at hrule
        | exact le =>
            rw [hleft, PathMatcher.matches, beq_iff_eq] at hmatches
            rw [hleft, PathMatcher.value, hmatches] at hnew
            exact absurd (by simp) hnew
        | prefix_ lp =>
            rw [hleft, PathMatcher.matches, startsWith_iff,
              String.toList_ofList, List.prefix_concat_iff] at hmatches
            rcases hmatches with hsame | hcovers
            · rw [hleft, PathMatcher.value, hsame] at hnew
              exact absurd (List.prefix_refl _) hnew
            · exact startsWith_iff.mpr hcovers

/-- A method that no list of methods of the routes contains. -/
theorem exists_method_of_unlisted (P : Platform)
    (routes : List RoutingRule) :
    ∃ method, ∀ rule ∈ routes,
      methodMatches P method rule.methods = true → rule.methods = none := by
  obtain ⟨method, hfree⟩ := exists_method_not_listed P
    (routes.flatMap fun rule => rule.methods.getD [])
  refine ⟨method, fun rule hrule hmatches => ?_⟩
  cases hmethods : rule.methods with
  | none => rfl
  | some methods =>
      rw [hmethods] at hmatches
      obtain ⟨m, hm, hsame⟩ := List.any_eq_true.mp hmatches
      have hlisted : m ∈ routes.flatMap fun rule => rule.methods.getD [] :=
        List.mem_flatMap.mpr ⟨rule, hrule, by simpa [hmethods] using hm⟩
      rw [methodMatches, List.any_eq_false] at hfree
      exact absurd hsame (hfree m hlisted)

/-- Without headers only the routes that demand none are matched. -/
theorem headers_eq_none_of_matches {P : Platform} {rule : RoutingRule}
    (hdemand : rule.HeadersDemand)
    (hmatches : headersMatch P MultiMap.empty rule.headers = true) :
    rule.headers = none := by
  cases hheaders : rule.headers with
  | none => rfl
  | some map =>
      obtain ⟨name, hname⟩ := hdemand map hheaders
      obtain ⟨expected, hlookup⟩ := Option.isSome_iff_exists.mp hname
      have hmatch := headersMatch_iff.mp hmatches name expected
        ⟨map, hheaders, hlookup⟩
      unfold headerMatches at hmatch
      split at hmatch
      · cases hmatch
      · cases hmatch

/-! ## The exactness of the findings -/

/-- What `left` demands to be reported for an unconstrained route. -/
theorem ruleCovers_unconstrained {left right : RoutingRule}
    (hright : right.Unconstrained) :
    ruleCovers left right = true ↔
      left.Unconstrained ∧ pathMatcherCovers left.path right.path = true := by
  obtain ⟨hmethods, hheaders⟩ := hright
  rw [ruleCovers, hmethods, hheaders, RoutingRule.Unconstrained]
  cases left.methods <;> cases left.headers <;>
    simp [methodConstraintsCover, headerConstraintsCover]

/--
Among plain routes, fewer than there are basic characters, a route without
method and header constraints is never resolved exactly if it is reported as
shadowed; deleting it then changes no resolution.
-/
theorem unconstrained_dead_iff_reported {P : Platform} {config : AppConfig}
    {snapshot : RouterSnapshot}
    (hsnapshot : RouterSnapshot.fromConfig P config = .ok snapshot)
    (hplain : ∀ rule ∈ config.routes, rule.path.isPlain = true)
    (hdemand : ∀ rule ∈ config.routes, rule.HeadersDemand)
    (hfew : config.routes.length < 55296)
    {right : Fin config.routes.length}
    (hright : (config.routes.get right).Unconstrained) :
    (NeverResolved P config snapshot right ↔
      ∃ left, (left, right) ∈ shadowedPairs config.routes) ∧
    (DeletionUnchanged P config snapshot right ↔
      ∃ left, (left, right) ∈ shadowedPairs config.routes) := by
  have hmem (j : Fin config.routes.length) :
      config.routes.get j ∈ config.routes := List.get_mem _ _
  have hdead : NeverResolved P config snapshot right ↔
      ∃ left, (left, right) ∈ shadowedPairs config.routes := by
    rw [neverResolved_iff hsnapshot]
    constructor
    · intro hnever
      obtain ⟨path, hpath, hcoverers⟩ :=
        exists_path_of_coverers P (hplain _ (hmem right)) hfew
      obtain ⟨method, hunlisted⟩ := exists_method_of_unlisted P config.routes
      have hmatched : (config.routes.get right).matches P path method
          MultiMap.empty = true := by
        rw [RoutingRule.matches_iff, hright.1, hright.2]
        exact ⟨hpath, rfl, rfl⟩
      obtain ⟨left, hleft, hbefore⟩ := hnever path method _ hmatched
      obtain ⟨hlpath, hlmethod, hlheaders⟩ := RoutingRule.matches_iff.mp hleft
      refine ⟨left, mem_shadowedPairs.mpr ⟨hbefore, ?_⟩⟩
      rw [ruleCovers_unconstrained hright]
      exact ⟨⟨hunlisted _ (hmem left) hlmethod,
        headers_eq_none_of_matches (hdemand _ (hmem left)) hlheaders⟩,
        hcoverers _ (hmem left) (hplain _ (hmem left)) hlpath⟩
    · rintro ⟨left, hpair⟩ path method headers hmatched
      obtain ⟨hbefore, hcovers⟩ := mem_shadowedPairs.mp hpair
      obtain ⟨⟨hmethods, hheaders⟩, hpath⟩ :=
        (ruleCovers_unconstrained hright).mp hcovers
      refine ⟨left, ?_, hbefore⟩
      rw [RoutingRule.matches_iff, hmethods, hheaders]
      exact ⟨pathMatcherCovers_sound hpath
        (RoutingRule.matches_iff.mp hmatched).1, rfl, rfl⟩
  exact ⟨hdead, (neverResolved_iff_deletionUnchanged hsnapshot right).symm.trans
    hdead⟩

theorem unconstrained_dead_catchAll :
    ∃ snapshot,
      RouterSnapshot.fromConfig .plain catchAllRoutes = .ok snapshot ∧
      DeletionUnchanged .plain catchAllRoutes snapshot ⟨1, by decide⟩ := by
  have hcompiled :
      ∃ snapshot, RouterSnapshot.fromConfig .plain catchAllRoutes =
        .ok snapshot := ⟨_, rfl⟩
  obtain ⟨snapshot, hsnapshot⟩ := hcompiled
  have hnone : ∀ rule ∈ catchAllRoutes.routes, rule.headers = none := by
    decide
  refine ⟨snapshot, hsnapshot, (unconstrained_dead_iff_reported hsnapshot
    (by decide) ?_ (by decide) ⟨rfl, rfl⟩).2.mpr
      ⟨⟨0, by decide⟩, by decide⟩⟩
  intro rule hrule map hmap
  rw [hnone rule hrule] at hmap
  cases hmap

end ServiceRouter
