import ServiceRouter.Foundation.StableSort
import ServiceRouter.Foundation.Text
import ServiceRouter.Config.Model

/-!
# Strict configuration checks

The findings of `check-config --strict`.  Route references are positions, so
two routes with the same id stay apart.  The duplicate-id pass iterates a hash
map; its order is a parameter.
-/

namespace ServiceRouter

open Foundation

structure StrictFinding where
  code : String
  message : String
  details : Option Value
  deriving DecidableEq

/-! ## Coverage tests -/

def pathMatcherCovers : PathMatcher → PathMatcher → Bool
  | .prefix_ lp, .prefix_ rp => startsWith rp lp
  | .prefix_ lp, .exact re => startsWith re lp
  | .exact le, .exact re => le == re
  | _, _ => false

def methodConstraintsCover :
    Option (List String) → Option (List String) → Bool
  | none, _ => true
  | some _, none => false
  | some l, some r => r.all fun rm => l.any fun lm => eqIgnoreAsciiCase lm rm

def headerConstraintsCover :
    Option (HashMap String String) → Option (HashMap String String) → Bool
  | none, _ => true
  | some _, none => false
  | some l, some r =>
      r.entries.all fun entry => l.lookup entry.1 == some entry.2

def stripPrefixAppliesToMatchedRequests (matcherPrefix strip : String) : Bool :=
  startsWith matcherPrefix strip

/-! ## The passes -/

/-- Every pair of an earlier and a later element, the earlier one first. -/
def laterPairs {α : Type} : List α → List (α × α)
  | [] => []
  | left :: rest => rest.map (fun right => (left, right)) ++ laterPairs rest

def routingEvaluationOrderIndices (routes : List RoutingRule) :
    List (Fin routes.length) :=
  sortByKey (fun i => (routes.get i).priority) (List.finRange routes.length)

def routesEmptyFindings (routes : List RoutingRule) : List StrictFinding :=
  if routes.isEmpty
  then [⟨"ROUTES_EMPTY", "routes list is empty", none⟩]
  else []

def countIds (routes : List RoutingRule) : HashMap String Nat :=
  routes.foldl (fun counts rule =>
    counts.insert rule.id ((counts.lookup rule.id).getD 0 + 1)) ∅

def duplicateIdFindings (iter : IterOrder) (routes : List RoutingRule) :
    List StrictFinding :=
  (iter.order (countIds routes).entries).filterMap fun entry =>
    if entry.2 > 1 then
      some {
        code := "DUPLICATE_ROUTE_ID"
        message :=
          s!"duplicate route id '{entry.1}' appears {entry.2} times"
        details := some (.mkObject [
          ("route_id", .string entry.1),
          ("count", .number (.posInt entry.2))]) }
    else none

/-- The source compares the `Debug` texts of the matchers, which determine
the matchers. -/
def sameMatcher (left right : RoutingRule) : Bool :=
  left.path == right.path && left.methods == right.methods &&
    match left.headers, right.headers with
    | none, none => true
    | some l, some r => decide (HashMap.SameBindings l r)
    | _, _ => false

def identicalMatcherFindings (routes : List RoutingRule) :
    List StrictFinding :=
  (laterPairs routes).filterMap fun (left, right) =>
    if sameMatcher left right then
      some {
        code := "IDENTICAL_MATCHERS"
        message := s!"rules '{left.id}' and '{right.id}' have identical " ++
          "match conditions"
        details := some (.mkObject [
          ("rule_ids", .array [.string left.id, .string right.id])]) }
    else none

def ruleCovers (left right : RoutingRule) : Bool :=
  methodConstraintsCover left.methods right.methods &&
    headerConstraintsCover left.headers right.headers &&
    pathMatcherCovers left.path right.path

def shadowedPairs (routes : List RoutingRule) :
    List (Fin routes.length × Fin routes.length) :=
  (laterPairs (routingEvaluationOrderIndices routes)).filter
    fun (leftIdx, rightIdx) =>
      ruleCovers (routes.get leftIdx) (routes.get rightIdx)

def ruleShadowedFinding (left right : RoutingRule) : StrictFinding where
  code := "RULE_SHADOWED"
  message := s!"rule '{left.id}' is evaluated before '{right.id}' and " ++
    s!"covers its path; overlapping requests cannot reach '{right.id}'"
  details := some (.mkObject [
    ("covering_rule_id", .string left.id),
    ("shadowed_rule_id", .string right.id)])

def ruleShadowedFindings (routes : List RoutingRule) : List StrictFinding :=
  (shadowedPairs routes).map fun (leftIdx, rightIdx) =>
    ruleShadowedFinding (routes.get leftIdx) (routes.get rightIdx)

def upstreamAndServiceIdFindings (rule : RoutingRule) : List StrictFinding :=
  if rule.upstreamUrl.isSome && rule.serviceId.isSome then
    [{
      code := "UPSTREAM_AND_SERVICE_ID"
      message := s!"rule '{rule.id}' sets both upstream_url and service_id " ++
        "(upstream wins; registry lookup is unreachable)"
      details := some (.mkObject [("rule_id", .string rule.id)]) }]
  else []

def stripPrefixFindings (rule : RoutingRule) : List StrictFinding :=
  match rule.path, rule.stripPrefix with
  | .prefix_ p, some strip =>
      if !strip.toList.isEmpty && p != "/" &&
          !stripPrefixAppliesToMatchedRequests p strip then
        [{
          code := "STRIP_PREFIX_UNREACHABLE"
          message := s!"rule '{rule.id}' strip_prefix '{strip}' never " ++
            s!"applies (prefix matcher '{p}') — path matches never begin " ++
            s!"with '{strip}'"
          details := some (.mkObject [
            ("rule_id", .string rule.id),
            ("strip_prefix", .string strip),
            ("prefix", .string p)]) }]
      else []
  | _, _ => []

def runStrictConfigChecks (iter : IterOrder) (config : AppConfig) :
    List StrictFinding :=
  routesEmptyFindings config.routes ++
    duplicateIdFindings iter config.routes ++
    identicalMatcherFindings config.routes ++
    ruleShadowedFindings config.routes ++
    config.routes.flatMap fun rule =>
      upstreamAndServiceIdFindings rule ++ stripPrefixFindings rule

/-! ## The findings of the shadowing pass -/

private theorem filter_eq_nil_of_code {findings : List StrictFinding}
    {code : String} (hcode : ∀ finding ∈ findings, finding.code ≠ code) :
    (findings.filter fun finding => finding.code = code) = [] :=
  List.filter_eq_nil_iff.mpr fun finding hfinding => by
    simpa using hcode finding hfinding

private theorem code_of_mem_duplicateIdFindings {iter : IterOrder}
    {routes : List RoutingRule} {finding : StrictFinding}
    (h : finding ∈ duplicateIdFindings iter routes) :
    finding.code = "DUPLICATE_ROUTE_ID" := by
  obtain ⟨entry, -, hentry⟩ := List.mem_filterMap.mp h
  split at hentry <;> cases hentry
  rfl

private theorem code_of_mem_identicalMatcherFindings
    {routes : List RoutingRule} {finding : StrictFinding}
    (h : finding ∈ identicalMatcherFindings routes) :
    finding.code = "IDENTICAL_MATCHERS" := by
  obtain ⟨⟨left, right⟩, -, hpair⟩ := List.mem_filterMap.mp h
  simp only [Option.ite_none_right_eq_some, Option.some.injEq] at hpair
  rw [← hpair.2]

private theorem code_of_mem_upstreamAndServiceIdFindings {rule : RoutingRule}
    {finding : StrictFinding}
    (h : finding ∈ upstreamAndServiceIdFindings rule) :
    finding.code = "UPSTREAM_AND_SERVICE_ID" := by
  rw [upstreamAndServiceIdFindings] at h
  split at h
  · rw [List.mem_singleton.mp h]
  · cases h

private theorem code_of_mem_stripPrefixFindings {rule : RoutingRule}
    {finding : StrictFinding} (h : finding ∈ stripPrefixFindings rule) :
    finding.code = "STRIP_PREFIX_UNREACHABLE" := by
  rw [stripPrefixFindings] at h
  split at h
  · split at h
    · rw [List.mem_singleton.mp h]
    · cases h
  · cases h

private theorem code_of_mem_ruleFindings {rule : RoutingRule}
    {finding : StrictFinding}
    (h : finding ∈ upstreamAndServiceIdFindings rule ++
      stripPrefixFindings rule) :
    finding.code = "UPSTREAM_AND_SERVICE_ID" ∨
      finding.code = "STRIP_PREFIX_UNREACHABLE" := by
  rcases List.mem_append.mp h with h | h
  · exact .inl (code_of_mem_upstreamAndServiceIdFindings h)
  · exact .inr (code_of_mem_stripPrefixFindings h)

private theorem code_of_mem_routesEmptyFindings {routes : List RoutingRule}
    {finding : StrictFinding} (h : finding ∈ routesEmptyFindings routes) :
    finding.code = "ROUTES_EMPTY" := by
  rw [routesEmptyFindings] at h
  split at h
  · rw [List.mem_singleton.mp h]
  · cases h

private theorem code_of_mem_ruleShadowedFindings {routes : List RoutingRule}
    {finding : StrictFinding} (h : finding ∈ ruleShadowedFindings routes) :
    finding.code = "RULE_SHADOWED" := by
  obtain ⟨pair, -, rfl⟩ := List.mem_map.mp h
  rfl

/-- The passes over the list as a whole report under their own codes. -/
private theorem filter_listPasses (code : String) (iter : IterOrder)
    (routes : List RoutingRule) (hempty : "ROUTES_EMPTY" ≠ code)
    (hduplicate : "DUPLICATE_ROUTE_ID" ≠ code)
    (hidentical : "IDENTICAL_MATCHERS" ≠ code) :
    ((routesEmptyFindings routes ++ duplicateIdFindings iter routes ++
      identicalMatcherFindings routes).filter
        fun finding => finding.code = code) = [] := by
  apply filter_eq_nil_of_code
  intro finding h
  rcases List.mem_append.mp h with h | h
  · rcases List.mem_append.mp h with h | h
    · rw [code_of_mem_routesEmptyFindings h]
      exact hempty
    · rw [code_of_mem_duplicateIdFindings h]
      exact hduplicate
  · rw [code_of_mem_identicalMatcherFindings h]
    exact hidentical

theorem filter_ruleShadowed (iter : IterOrder) (config : AppConfig) :
    (runStrictConfigChecks iter config).filter
        (fun finding => finding.code = "RULE_SHADOWED") =
      ruleShadowedFindings config.routes := by
  have hrules : ∀ finding ∈ config.routes.flatMap fun rule =>
      upstreamAndServiceIdFindings rule ++ stripPrefixFindings rule,
      finding.code ≠ "RULE_SHADOWED" := fun finding h => by
    obtain ⟨rule, -, h⟩ := List.mem_flatMap.mp h
    rcases code_of_mem_ruleFindings h with h | h <;> rw [h] <;> decide
  have hshadowed : ((ruleShadowedFindings config.routes).filter
      fun finding => finding.code = "RULE_SHADOWED") =
      ruleShadowedFindings config.routes := by
    apply List.filter_eq_self.mpr
    intro finding h
    simp [code_of_mem_ruleShadowedFindings h]
  have hlist := filter_listPasses "RULE_SHADOWED" iter config.routes
    (by decide) (by decide) (by decide)
  rw [runStrictConfigChecks, List.filter_append, List.filter_append, hlist,
    hshadowed, filter_eq_nil_of_code hrules, List.nil_append, List.append_nil]

theorem filter_stripPrefixUnreachable (iter : IterOrder) (config : AppConfig) :
    (runStrictConfigChecks iter config).filter
        (fun finding => finding.code = "STRIP_PREFIX_UNREACHABLE") =
      config.routes.flatMap stripPrefixFindings := by
  have hshadowed : ∀ finding ∈ ruleShadowedFindings config.routes,
      finding.code ≠ "STRIP_PREFIX_UNREACHABLE" := fun finding h => by
    rw [code_of_mem_ruleShadowedFindings h]
    decide
  have hrule (rule : RoutingRule) :
      ((upstreamAndServiceIdFindings rule ++ stripPrefixFindings rule).filter
        fun finding => finding.code = "STRIP_PREFIX_UNREACHABLE") =
      stripPrefixFindings rule := by
    have hupstream : ∀ finding ∈ upstreamAndServiceIdFindings rule,
        finding.code ≠ "STRIP_PREFIX_UNREACHABLE" := fun finding h => by
      rw [code_of_mem_upstreamAndServiceIdFindings h]
      decide
    have hstrip : ((stripPrefixFindings rule).filter
        fun finding => finding.code = "STRIP_PREFIX_UNREACHABLE") =
        stripPrefixFindings rule := by
      apply List.filter_eq_self.mpr
      intro finding h
      simp [code_of_mem_stripPrefixFindings h]
    rw [List.filter_append, filter_eq_nil_of_code hupstream, hstrip,
      List.nil_append]
  have hlist := filter_listPasses "STRIP_PREFIX_UNREACHABLE" iter
    config.routes (by decide) (by decide) (by decide)
  rw [runStrictConfigChecks, List.filter_append, List.filter_append, hlist,
    filter_eq_nil_of_code hshadowed, List.filter_flatMap, List.nil_append,
    List.nil_append]
  exact congrArg config.routes.flatMap (funext hrule)

/-! ## Pairs in evaluation order -/

theorem mem_laterPairs {α : Type} {items : List α} {a b : α} :
    (a, b) ∈ laterPairs items ↔ [a, b].Sublist items := by
  induction items with
  | nil => simp [laterPairs]
  | cons c items ih =>
      rw [laterPairs, List.mem_append, ih]
      constructor
      · rintro (h | h)
        · obtain ⟨right, hright, heq⟩ := List.mem_map.mp h
          cases heq
          exact (List.singleton_sublist.mpr hright).cons_cons _
        · exact h.cons _
      · intro h
        cases h with
        | cons _ h => exact .inr h
        | cons_cons _ h =>
            refine .inl (List.mem_map.mpr ⟨b, ?_, rfl⟩)
            exact List.singleton_sublist.mp h

/-- The index list is the order in which the snapshot stores the routes. -/
theorem routingEvaluationOrderIndices_eq (routes : List RoutingRule) :
    routingEvaluationOrderIndices routes =
      stableOrder RoutingRule.priority routes :=
  (stableOrder_eq_sort_positions _ _).symm

/-- In a list ordered by an asymmetric relation, related members are a pair of
an earlier and a later element. -/
private theorem pair_mem_laterPairs {α : Type} {before : α → α → Prop}
    (hasymm : ∀ a b, before a b → ¬ before b a) {items : List α}
    (hitems : items.Pairwise before) {a b : α} (ha : a ∈ items)
    (hb : b ∈ items) (hab : before a b) : (a, b) ∈ laterPairs items := by
  induction items with
  | nil => cases ha
  | cons c items ih =>
      obtain ⟨hc, htail⟩ := List.pairwise_cons.mp hitems
      rw [laterPairs, List.mem_append]
      rcases List.mem_cons.mp ha with rfl | hmem
      · rcases List.mem_cons.mp hb with rfl | hb
        · exact absurd hab (hasymm _ _ hab)
        · exact .inl (List.mem_map.mpr ⟨b, hb, rfl⟩)
      · rcases List.mem_cons.mp hb with rfl | hb
        · exact absurd (hc a hmem) (hasymm _ _ hab)
        · exact .inr (ih htail hmem hb)

theorem mem_shadowedPairs {routes : List RoutingRule}
    {left right : Fin routes.length} :
    (left, right) ∈ shadowedPairs routes ↔
      PositionBefore RoutingRule.priority routes left right ∧
        ruleCovers (routes.get left) (routes.get right) = true := by
  have horder := pairwise_stableOrder RoutingRule.priority routes
  simp only [shadowedPairs, List.mem_filter,
    routingEvaluationOrderIndices_eq]
  refine and_congr_left fun _ => ⟨fun hpair => ?_, fun hbefore => ?_⟩
  · exact List.pairwise_iff_forall_sublist.mp horder (mem_laterPairs.mp hpair)
  · exact pair_mem_laterPairs (fun _ _ h => h.asymm) horder
      (mem_stableOrder _ _ left) (mem_stableOrder _ _ right) hbefore

end ServiceRouter
