import ServiceRouter.Config.StrictCheck
import ServiceRouter.Routing.Matcher

/-!
# Prefixes that are never stripped

A finding says that a rule's `strip_prefix` never applies.  The check asks only
whether the matcher's prefix begins with it; a `strip_prefix` that is longer
than the matcher's prefix and extends it is reported as well, although longer
paths do begin with it.
-/

namespace ServiceRouter

open Foundation

/-- Whether `rewritePath` takes its stripping branch. -/
def CompiledRoutingRule.strips (rule : CompiledRoutingRule) (path : String) :
    Bool :=
  match rule.stripPrefix with
  | none => false
  | some pre => (stripPrefix? path pre).isSome

theorem CompiledRoutingRule.rewritePath_of_not_strips
    {rule : CompiledRoutingRule} {path : String}
    (h : rule.strips path = false) : rule.rewritePath path = path := by
  rw [strips] at h
  rw [rewritePath]
  cases hpre : rule.stripPrefix with
  | none => rfl
  | some pre =>
      rw [hpre] at h
      simp only [Option.isSome_eq_false_iff, Option.isNone_iff_eq_none] at h
      simp only [h]

/-! ## Paths with two prefixes -/

theorem exists_common_extension_iff {first second : String} :
    (∃ path, startsWith path first = true ∧ startsWith path second = true) ↔
      startsWith first second = true ∨ startsWith second first = true := by
  simp only [startsWith_iff]
  constructor
  · rintro ⟨path, hfirst, hsecond⟩
    exact (List.prefix_or_prefix_of_prefix hfirst hsecond).symm
  · rintro (h | h)
    · exact ⟨first, List.prefix_rfl, h⟩
    · exact ⟨second, h, List.prefix_rfl⟩

/-! ## The finding of one rule -/

def stripPrefixUnreachable (ruleId p strip : String) : StrictFinding where
  code := "STRIP_PREFIX_UNREACHABLE"
  message := s!"rule '{ruleId}' strip_prefix '{strip}' never " ++
    s!"applies (prefix matcher '{p}') — path matches never begin " ++
    s!"with '{strip}'"
  details := some (.mkObject [
    ("rule_id", .string ruleId),
    ("strip_prefix", .string strip),
    ("prefix", .string p)])

theorem stripPrefixUnreachable_inj {ruleId ruleId' p p' strip strip' : String}
    (h : stripPrefixUnreachable ruleId p strip =
      stripPrefixUnreachable ruleId' p' strip') : p = p' ∧ strip = strip' := by
  have hfield (key : String) :=
    congrArg (fun finding : StrictFinding =>
      finding.details.bind (Value.getField key)) h
  simp only [stripPrefixUnreachable, Option.bind_some,
    Value.getField_mkObject] at hfield
  constructor
  · have hp := hfield "prefix"
    cases hp
    rfl
  · have hs := hfield "strip_prefix"
    cases hs
    rfl

theorem stripPrefixFindings_eq {rule : RoutingRule} {p strip : String}
    (hpath : rule.path = .prefix_ p) (hstrip : rule.stripPrefix = some strip) :
    stripPrefixFindings rule =
      if !strip.toList.isEmpty && p != "/" && !startsWith p strip
      then [stripPrefixUnreachable rule.id p strip] else [] := by
  rw [stripPrefixFindings, hpath, hstrip]
  rfl

theorem mem_stripPrefixFindings {rule : RoutingRule}
    {ruleId p strip : String}
    (h : stripPrefixUnreachable ruleId p strip ∈ stripPrefixFindings rule) :
    startsWith p strip = false := by
  cases hpath : rule.path with
  | prefix_ p' =>
      cases hstrip : rule.stripPrefix with
      | none => simp [stripPrefixFindings, hpath, hstrip] at h
      | some strip' =>
          rw [stripPrefixFindings_eq hpath hstrip] at h
          split at h
          · rename_i hreported
            obtain ⟨rfl, rfl⟩ :=
              stripPrefixUnreachable_inj (List.mem_singleton.mp h)
            simpa using (Bool.and_eq_true_iff.mp hreported).2
          · cases h
  | exact value => simp [stripPrefixFindings, hpath] at h
  | glob value => simp [stripPrefixFindings, hpath] at h
  | regex value => simp [stripPrefixFindings, hpath] at h

section

variable {config : AppConfig} {rule : RoutingRule} {p strip : String}

theorem stripPrefixUnreachable_reported_iff (hrule : rule ∈ config.routes)
    (hpath : rule.path = .prefix_ p) (hstrip : rule.stripPrefix = some strip)
    (hroot : p ≠ "/") (hne : strip ≠ "") (iter : IterOrder) :
    stripPrefixUnreachable rule.id p strip ∈
        runStrictConfigChecks iter config ↔
      startsWith p strip = false := by
  have hmem : stripPrefixUnreachable rule.id p strip ∈
      runStrictConfigChecks iter config ↔
      stripPrefixUnreachable rule.id p strip ∈
        config.routes.flatMap stripPrefixFindings := by
    rw [← filter_stripPrefixUnreachable iter config, List.mem_filter]
    simp [stripPrefixUnreachable]
  rw [hmem, List.mem_flatMap]
  constructor
  · rintro ⟨other, _, hother⟩
    exact mem_stripPrefixFindings hother
  · intro hfree
    refine ⟨rule, hrule, ?_⟩
    rw [stripPrefixFindings_eq hpath hstrip]
    simp [hfree, hroot, hne]

theorem strips_eq {P : Platform} {compiled : CompiledRoutingRule}
    (hcompiled : CompiledRoutingRule.compile P rule = .ok compiled)
    (hstrip : rule.stripPrefix = some strip) (path : String) :
    compiled.strips path = startsWith path strip := by
  obtain ⟨_, _, -, -, rfl⟩ := compile_eq_ok.mp hcompiled
  simp only [CompiledRoutingRule.strips, hstrip, stripPrefix?]
  cases startsWith path strip with
  | true => rfl
  | false => rfl

/-- The finding for a rule is exact unless its `strip_prefix` properly extends
the prefix of its matcher. -/
theorem strip_prefix_unreachable_exact_iff (P : Platform)
    (hrule : rule ∈ config.routes)
    (hpath : rule.path = .prefix_ p) (hstrip : rule.stripPrefix = some strip)
    (hroot : p ≠ "/") (hne : strip ≠ "") (iter : IterOrder) :
    ((stripPrefixUnreachable rule.id p strip ∈
        runStrictConfigChecks iter config ↔
      ∀ path, rule.path.matches P path = true →
        startsWith path strip = false) ↔
      ¬(startsWith strip p = true ∧ strip ≠ p)) ∧
    ∀ compiled, CompiledRoutingRule.compile P rule = .ok compiled →
      ∀ path,
        compiled.compiledPath.matches P path = rule.path.matches P path ∧
        compiled.strips path = startsWith path strip ∧
        (compiled.strips path = false → compiled.rewritePath path = path) := by
  refine ⟨?_, fun compiled hcompiled path => ⟨?_, ?_, ?_⟩⟩
  · have hsemantic : (∀ path, rule.path.matches P path = true →
        startsWith path strip = false) ↔
        ¬(startsWith p strip = true ∨ startsWith strip p = true) := by
      rw [← exists_common_extension_iff, hpath]
      simp [PathMatcher.matches]
    have hsame : startsWith strip p = true → startsWith p strip = true →
        strip = p := by
      intro hp hs
      rw [startsWith_iff] at hp hs
      exact String.ext_iff.mpr (hs.eq_of_length (hs.length_le.antisymm
        hp.length_le))
    have hself : strip = p → startsWith p strip = true := by
      rintro rfl
      simp [startsWith_iff]
    rw [stripPrefixUnreachable_reported_iff hrule hpath hstrip hroot hne iter,
      hsemantic]
    cases hshort : startsWith strip p with
    | false => simp
    | true =>
        cases hlong : startsWith p strip with
        | false =>
            have hdiffer : strip ≠ p := by
              intro heq
              simp [hself heq] at hlong
            simp [hdiffer]
        | true => simp [hsame hshort hlong]
  · obtain ⟨compiledPath, _, hmatcher, -, rfl⟩ := compile_eq_ok.mp hcompiled
    exact compilePath_matches hmatcher path
  · exact strips_eq hcompiled hstrip path
  · exact CompiledRoutingRule.rewritePath_of_not_strips

end

def versionedRule : RoutingRule where
  id := "v1"
  path := .prefix_ "/api"
  serviceId := none
  upstreamUrl := some "http://up"
  stripPrefix := some "/api/v1"

def otherRule : RoutingRule where
  id := "other"
  path := .prefix_ "/api"
  serviceId := none
  upstreamUrl := some "http://up"
  stripPrefix := some "/web"

def stripRoutes : AppConfig where
  routes := [versionedRule, otherRule]

theorem strip_prefix_unreachable_exact_other :
    stripPrefixUnreachable otherRule.id "/api" "/web" ∈
        runStrictConfigChecks .insertion stripRoutes ↔
      ∀ path, otherRule.path.matches .plain path = true →
        startsWith path "/web" = false := by
  have hrule : otherRule ∈ stripRoutes.routes := by decide
  exact (strip_prefix_unreachable_exact_iff .plain hrule rfl rfl (by decide)
    (by decide) .insertion).1.mpr (by decide)

/-- The finding is reported although `/api/v1/orders` is matched and begins
with the prefix. -/
theorem strip_prefix_unreachable_false_versioned :
    stripPrefixUnreachable versionedRule.id "/api" "/api/v1" ∈
        runStrictConfigChecks .insertion stripRoutes ∧
      versionedRule.path.matches .plain "/api/v1/orders" = true ∧
      startsWith "/api/v1/orders" "/api/v1" = true := by
  have hrule : versionedRule ∈ stripRoutes.routes := by decide
  refine ⟨?_, by decide, by decide⟩
  exact (stripPrefixUnreachable_reported_iff hrule rfl rfl (by decide)
    (by decide) .insertion).mpr (by decide)

end ServiceRouter
