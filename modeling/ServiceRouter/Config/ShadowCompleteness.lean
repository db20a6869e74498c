import Mathlib.Algebra.Order.BigOperators.Group.List
import ServiceRouter.Config.Shadowing

/-!
# Which covered routes are reported

An earlier route may accept every request of a later one.  Whether the pair is
then reported is decided by the header maps, and by methods whose letter case
differs beyond ASCII; the path test finds every such pair of plain matchers.
-/

namespace ServiceRouter

open Foundation

def PathMatcher.isPlain : PathMatcher → Bool
  | .exact _ => true
  | .prefix_ _ => true
  | _ => false

/-- `right` accepts some request, and `left` accepts whatever it accepts. -/
structure RoutingRule.Includes (P : Platform) (left right : RoutingRule) :
    Prop where
  matched : ∃ path method headers, right.matches P path method headers = true
  included : ∀ path method headers,
    right.matches P path method headers = true →
      left.matches P path method headers = true

/-! ## Paths -/

theorem startsWith_append (text more : String) :
    startsWith (text ++ more) text = true := by
  simp [startsWith_iff]

theorem pathMatcherCovers_of_includes {P : Platform}
    {left right : RoutingRule} (h : left.Includes P right)
    (hleft : left.path.isPlain = true) (hright : right.path.isPlain = true) :
    pathMatcherCovers left.path right.path = true := by
  obtain ⟨path₀, method, headers, hmatched⟩ := h.matched
  obtain ⟨-, hmethod, hheaders⟩ := RoutingRule.matches_iff.mp hmatched
  have hpath (path : String) (hp : right.path.matches P path = true) :
      left.path.matches P path = true := by
    have hincluded := h.included path method headers
      (RoutingRule.matches_iff.mpr ⟨hp, hmethod, hheaders⟩)
    exact (RoutingRule.matches_iff.mp hincluded).1
  cases hl : left.path with
  | glob value => simp [hl, PathMatcher.isPlain] at hleft
  | regex value => simp [hl, PathMatcher.isPlain] at hleft
  | exact le =>
      cases hr : right.path with
      | glob value => simp [hr, PathMatcher.isPlain] at hright
      | regex value => simp [hr, PathMatcher.isPlain] at hright
      | exact re =>
          rw [hl, hr] at hpath
          exact hpath re (by simp [PathMatcher.matches])
      | prefix_ rp =>
          -- an exact matcher does not accept two paths
          rw [hl, hr] at hpath
          have hself := hpath rp (by simp [PathMatcher.matches, startsWith_iff])
          have hlonger := hpath (rp ++ "/") (startsWith_append rp "/")
          simp only [PathMatcher.matches, beq_iff_eq] at hself hlonger
          have hlength := congrArg String.length (hself.symm.trans hlonger)
          simp at hlength
  | prefix_ lp =>
      cases hr : right.path with
      | glob value => simp [hr, PathMatcher.isPlain] at hright
      | regex value => simp [hr, PathMatcher.isPlain] at hright
      | exact re =>
          rw [hl, hr] at hpath
          exact hpath re (by simp [PathMatcher.matches])
      | prefix_ rp =>
          rw [hl, hr] at hpath
          exact hpath rp (by simp [PathMatcher.matches, startsWith_iff])

/-! ## Methods -/

private def longMethod (n : Nat) : String :=
  String.ofList (List.replicate n 'A')

private theorem toUppercase_longMethod (tables : CaseMapping) (n : Nat) :
    tables.toUppercase (longMethod n) = longMethod n := by
  rw [tables.toUppercase_ascii]
  · simp [longMethod]
  · intro c hc
    simp only [longMethod, String.toList_ofList, List.mem_replicate] at hc
    rw [hc.2]
    decide

/-- No list of methods covers every method. -/
theorem exists_method_not_listed (P : Platform) (methods : List String) :
    ∃ method, methodMatches P method (some methods) = false := by
  have hlonger (n : Nat) (hn : (methods.map fun m =>
      (P.caseMapping.toUppercase m).toList.length).sum < n) :
      methodMatches P (longMethod n) (some methods) = false := by
    simp only [methodMatches, List.any_eq_false, beq_iff_eq]
    intro m hm hsame
    have hlisted : (P.caseMapping.toUppercase m).toList.length ≤
        (methods.map fun m =>
          (P.caseMapping.toUppercase m).toList.length).sum :=
      List.le_sum_of_mem (List.mem_map_of_mem hm)
    rw [hsame, toUppercase_longMethod] at hlisted
    simp only [longMethod, String.toList_ofList, List.length_replicate]
      at hlisted
    omega
  exact ⟨_, hlonger _ (Nat.lt_succ_self _)⟩

/-- Every method of `right` is one of `left`, up to the case of ASCII
letters. -/
def RoutingRule.ListsMethodsOf (left right : RoutingRule) : Prop :=
  ∀ l r, left.methods = some l → right.methods = some r →
    ∀ rm ∈ r, ∃ lm ∈ l, eqIgnoreAsciiCase lm rm = true

section

variable {P : Platform} {left right : RoutingRule}

private theorem included_method (h : left.Includes P right) {method : String}
    (hmethod : methodMatches P method right.methods = true) :
    methodMatches P method left.methods = true := by
  obtain ⟨path, method₀, headers, hmatched⟩ := h.matched
  obtain ⟨hpath, -, hheaders⟩ := RoutingRule.matches_iff.mp hmatched
  have hincluded := h.included path method headers
    (RoutingRule.matches_iff.mpr ⟨hpath, hmethod, hheaders⟩)
  exact (RoutingRule.matches_iff.mp hincluded).2.1

theorem methodConstraintsCover_iff_of_includes (h : left.Includes P right) :
    methodConstraintsCover left.methods right.methods = true ↔
      left.ListsMethodsOf right := by
  unfold RoutingRule.ListsMethodsOf
  cases hl : left.methods with
  | none => simp [methodConstraintsCover]
  | some l =>
      cases hr : right.methods with
      | none =>
          obtain ⟨method, hfree⟩ := exists_method_not_listed P l
          have hright : methodMatches P method right.methods = true := by
            rw [hr]
            rfl
          have hlisted := included_method h hright
          rw [hl, hfree] at hlisted
          cases hlisted
      | some r => simp [methodConstraintsCover]

def AsciiMethods (rule : RoutingRule) : Prop :=
  ∀ methods, rule.methods = some methods →
    ∀ m ∈ methods, ∀ c ∈ m.toList, isAsciiChar c = true

/-- Methods in ASCII are listed whenever the requests are included. -/
theorem listsMethodsOf_of_ascii (h : left.Includes P right)
    (hleft : AsciiMethods left) (hright : AsciiMethods right) :
    left.ListsMethodsOf right := by
  intro l r hl hr rm hrm
  have hlisted : methodMatches P rm left.methods = true := by
    apply included_method h
    rw [hr]
    exact List.any_eq_true.mpr ⟨rm, hrm, by simp⟩
  rw [hl] at hlisted
  obtain ⟨lm, hlm, hsame⟩ := List.any_eq_true.mp hlisted
  refine ⟨lm, hlm, ?_⟩
  rw [beq_iff_eq, P.caseMapping.toUppercase_ascii (hleft l hl lm hlm),
    P.caseMapping.toUppercase_ascii (hright r hr rm hrm),
    String.ofList_inj] at hsame
  have hlower := congrArg (List.map Char.toLower) hsame
  rw [eqIgnoreAsciiCase_iff]
  simpa [Function.comp_def] using hlower

/-! ## Headers -/

/-- `left` has no header map, or every entry of `right`'s is one of its. -/
def RoutingRule.ListsHeadersOf (left right : RoutingRule) : Prop :=
  left.headers = none ∨
    ∃ l r, left.headers = some l ∧ right.headers = some r ∧
      ∀ name value, r.lookup name = some value → l.lookup name = some value

theorem headerConstraintsCover_iff :
    headerConstraintsCover left.headers right.headers = true ↔
      left.ListsHeadersOf right := by
  unfold RoutingRule.ListsHeadersOf
  cases left.headers with
  | none => simp [headerConstraintsCover]
  | some l =>
      cases right.headers with
      | none => simp [headerConstraintsCover]
      | some r =>
          simp only [headerConstraintsCover, List.all_eq_true, beq_iff_eq]
          constructor
          · intro hall
            refine Or.inr ⟨l, r, rfl, rfl, fun name value hlookup => ?_⟩
            exact hall ⟨name, value⟩ (AList.mem_lookup_iff.mp hlookup)
          · rintro (hnone | ⟨_, _, hl, hr, hall⟩) entry hentry
            · cases hnone
            · cases hl
              cases hr
              exact hall entry.1 entry.2 (AList.mem_lookup_iff.mpr hentry)

end

/-! ## When a covered route is reported -/

/-- An earlier plain route that accepts whatever a later plain route accepts is
reported exactly if it lists the methods and the header entries of the later
one; the methods it lists as far as they are ASCII. -/
theorem covered_route_reported_iff {P : Platform} {config : AppConfig}
    {left right : Fin config.routes.length}
    (hbefore : PositionBefore RoutingRule.priority config.routes left right)
    (hleft : (config.routes.get left).path.isPlain = true)
    (hright : (config.routes.get right).path.isPlain = true)
    (hincludes : (config.routes.get left).Includes P
      (config.routes.get right)) :
    (∀ iter, (runStrictConfigChecks iter config).filter
        (fun finding => finding.code = "RULE_SHADOWED") =
      (shadowedPairs config.routes).map fun pair =>
        ruleShadowedFinding (config.routes.get pair.1)
          (config.routes.get pair.2)) ∧
    ((left, right) ∈ shadowedPairs config.routes ↔
      (config.routes.get left).ListsHeadersOf (config.routes.get right) ∧
        (config.routes.get left).ListsMethodsOf (config.routes.get right)) ∧
    (AsciiMethods (config.routes.get left) →
      AsciiMethods (config.routes.get right) →
      (config.routes.get left).ListsMethodsOf (config.routes.get right)) := by
  refine ⟨fun iter => filter_ruleShadowed iter config, ?_,
    listsMethodsOf_of_ascii hincludes⟩
  have hpath := pathMatcherCovers_of_includes hincludes hleft hright
  rw [mem_shadowedPairs, ruleCovers, hpath, Bool.and_true, Bool.and_eq_true,
    methodConstraintsCover_iff_of_includes hincludes,
    headerConstraintsCover_iff]
  constructor
  · rintro ⟨-, hmethods, hheaders⟩
    exact ⟨hheaders, hmethods⟩
  · rintro ⟨hheaders, hmethods⟩
    exact ⟨hbefore, hmethods, hheaders⟩

theorem covered_route_reported_catchAll :
    (⟨0, by decide⟩, ⟨1, by decide⟩) ∈
      shadowedPairs catchAllRoutes.routes := by
  have hincludes : (catchAllRoutes.routes.get ⟨0, by decide⟩).Includes .plain
      (catchAllRoutes.routes.get ⟨1, by decide⟩) := by
    constructor
    · exact ⟨"/api", "GET", ⟨[]⟩, by decide⟩
    · intro path method headers hright
      obtain ⟨hpath, -, -⟩ := RoutingRule.matches_iff.mp hright
      have hapi : startsWith path "/api" = true := hpath
      have hshorter : startsWith "/api" "/" = true := by decide
      have hroot : startsWith path "/" = true := startsWith_trans hapi hshorter
      exact RoutingRule.matches_iff.mpr ⟨hroot, rfl, rfl⟩
  refine (covered_route_reported_iff (by decide) rfl rfl hincludes).2.1.mpr
    ⟨Or.inl rfl, ?_⟩
  intro l r hl
  cases hl

/-- The earlier route demands one header, the later one that header and a
second one. -/
def narrowedRoutes : AppConfig where
  routes := [
    { id := "one", path := .prefix_ "/"
      headers := some (AList.singleton "x-a" "1")
      serviceId := some "one", upstreamUrl := none, stripPrefix := none },
    { id := "both", path := .prefix_ "/"
      headers := some ((AList.singleton "x-a" "1").insert "x-b" "2")
      serviceId := some "both", upstreamUrl := none, stripPrefix := none }]

/-- The later route is covered and not reported. -/
theorem covered_route_unreported_narrowed :
    PositionBefore RoutingRule.priority narrowedRoutes.routes ⟨0, by decide⟩
        ⟨1, by decide⟩ ∧
      (narrowedRoutes.routes.get ⟨0, by decide⟩).Includes .plain
        (narrowedRoutes.routes.get ⟨1, by decide⟩) ∧
      (⟨0, by decide⟩, ⟨1, by decide⟩) ∉
        shadowedPairs narrowedRoutes.routes ∧
      (runStrictConfigChecks .insertion narrowedRoutes).filter
        (fun finding => finding.code = "RULE_SHADOWED") = [] := by
  refine ⟨by decide, ?_, by decide, ?_⟩
  · constructor
    · exact ⟨"/", "GET", ⟨[(⟨"x-a", by decide⟩, ⟨[49]⟩),
        (⟨"x-b", by decide⟩, ⟨[50]⟩)]⟩, by decide⟩
    · intro path method headers hright
      obtain ⟨hpath, hmethod, hheaders⟩ := RoutingRule.matches_iff.mp hright
      have hboth : (headerMatches .plain headers "x-b" "2" &&
          (headerMatches .plain headers "x-a" "1" && true)) = true := hheaders
      have hone : (headerMatches .plain headers "x-a" "1" && true) = true :=
        (Bool.and_eq_true_iff.mp hboth).2
      exact RoutingRule.matches_iff.mpr ⟨hpath, hmethod, hone⟩
  · rw [filter_ruleShadowed]
    decide

end ServiceRouter
