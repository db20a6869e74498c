import ServiceRouter.Main.RouteExplain

/-!
# Verdicts of the explanation

The explanation checks a rule again with means of its own: it compares methods
up to ASCII letter case, and a header value that is not visible ASCII is
missing for it where the matcher reads an empty text.  What it accepts the
matcher accepts, so a rule that does not match always gets a finding.
-/

namespace ServiceRouter

open Foundation

section Findings

variable (P : Platform) (path method configPath : String)

/-! ## All findings of a rule -/

def methodAccepted (methods : Option (List String)) : Bool :=
  (methods.map fun methods =>
    methods.any fun m => eqIgnoreAsciiCase m method).getD true

def headerFindings (rule : CompiledRoutingRule) (headerMap : HeaderMap) :
    List Finding :=
  (rule.headers.map fun headers => headers.entries.filterMap fun entry =>
    explainHeader P path method configPath rule.id headerMap entry.1
      entry.2).getD []

def ruleFindings (rule : CompiledRoutingRule) (headerMap : HeaderMap) :
    List Finding :=
  (if rule.compiledPath.matches P path then []
    else [pathFinding P path method configPath rule.compiledPath]) ++
  (if methodAccepted method rule.methods then []
    else [methodFinding P path method configPath rule.methods]) ++
  headerFindings P path method configPath rule headerMap

private theorem foldl_explainHeaderTurn (ruleId : String)
    (headerMap : HeaderMap) (conditions : List (String × String))
    (mismatch : RuleMismatch) :
    conditions.foldl (explainHeaderTurn P path method configPath ruleId
        headerMap) mismatch =
      let findings := conditions.filterMap fun condition =>
        explainHeader P path method configPath ruleId headerMap condition.1
          condition.2
      { mismatch with
        headersOk := mismatch.headersOk && findings.isEmpty
        reasons := mismatch.reasons ++ findings.map Finding.reason
        suggestions :=
          mismatch.suggestions ++ findings.map Finding.suggestion } := by
  induction conditions generalizing mismatch with
  | nil => simp
  | cons condition conditions ih =>
      rw [List.foldl_cons, ih]
      cases hfinding : explainHeader P path method configPath ruleId headerMap
          condition.1 condition.2 with
      | none => simp [explainHeaderTurn, hfinding]
      | some finding =>
          simp [explainHeaderTurn, hfinding, RuleMismatch.push]

/-- The flags and the lists that are returned, in terms of the findings. -/
theorem explainRuleMismatch_eq (rule : CompiledRoutingRule)
    (headerMap : HeaderMap) :
    explainRuleMismatch P path method configPath rule headerMap = {
      pathOk := rule.compiledPath.matches P path
      methodOk := methodAccepted method rule.methods
      headersOk :=
        (headerFindings P path method configPath rule headerMap).isEmpty
      reasons := (ruleFindings P path method configPath rule headerMap).map
        Finding.reason
      suggestions := (ruleFindings P path method configPath rule
        headerMap).map Finding.suggestion } := by
  unfold explainRuleMismatch ruleFindings headerFindings
  cases hpath : rule.compiledPath.matches P path <;>
    cases hmethod : methodAccepted method rule.methods <;>
      cases hheaders : rule.headers <;>
        simp only [methodAccepted] at hmethod <;>
        simp [hmethod, RuleMismatch.push, foldl_explainHeaderTurn,
          List.filterMap_map]

end Findings

/-! ## The two checks of a method and of a header -/

section Checks

variable {P : Platform} {path method configPath : String}
  {rule : CompiledRoutingRule} {headerMap : HeaderMap}

theorem methodMatches_of_methodAccepted {methods : Option (List String)}
    (h : methodAccepted method methods = true) :
    methodMatches P method methods = true := by
  cases methods with
  | none => rfl
  | some methods =>
      obtain ⟨m, hm, hsame⟩ := List.any_eq_true.mp h
      refine List.any_eq_true.mpr ⟨m, hm, beq_iff_eq.mpr ?_⟩
      exact P.caseMapping.toUppercase_eq_of_eqIgnoreAsciiCase hsame

theorem headerMatches_iff {name expected : String} :
    headerMatches P headerMap name expected = true ↔
      ∃ headerName actual, P.headerName name = some headerName ∧
        headerMap.get? headerName = some actual ∧
        (P.headerText actual).getD "" = expected := by
  unfold headerMatches
  cases P.headerName name with
  | none => simp
  | some headerName =>
      cases hget : headerMap.get? headerName <;> simp [hget]

theorem explainHeader_eq_none_iff {ruleId name expected : String} :
    explainHeader P path method configPath ruleId headerMap name expected =
        none ↔
      ∃ headerName actual, P.headerName name = some headerName ∧
        headerMap.get? headerName = some actual ∧
        P.headerText actual = some expected := by
  unfold explainHeader
  cases P.headerName name with
  | none => simp
  | some headerName =>
      cases hget : headerMap.get? headerName with
      | none => simp [hget]
      | some actual =>
          cases htext : P.headerText actual with
          | none => simp [hget, htext]
          | some text => simp [hget, htext]

theorem headerFindings_isEmpty_iff :
    (headerFindings P path method configPath rule headerMap).isEmpty = true ↔
      ∀ headers, rule.headers = some headers → ∀ entry ∈ headers.entries,
        explainHeader P path method configPath rule.id headerMap entry.1
          entry.2 = none := by
  unfold headerFindings
  cases rule.headers with
  | none => simp
  | some headers => simp [List.filterMap_eq_nil_iff]

theorem headersMatch_iff_forall {headers : Option (HashMap String String)} :
    headersMatch P headerMap headers = true ↔
      ∀ hs, headers = some hs → ∀ entry ∈ hs.entries,
        headerMatches P headerMap entry.1 entry.2 = true := by
  cases headers with
  | none => simp [headersMatch]
  | some hs => simp [headersMatch]

/-- What the explanation accepts the matcher accepts. -/
theorem headersMatch_of_isEmpty
    (h : (headerFindings P path method configPath rule headerMap).isEmpty =
      true) : headersMatch P headerMap rule.headers = true := by
  rw [headerFindings_isEmpty_iff] at h
  rw [headersMatch_iff_forall]
  intro headers hheaders entry hentry
  obtain ⟨name, actual, hname, hget, htext⟩ :=
    explainHeader_eq_none_iff.mp (h headers hheaders entry hentry)
  exact headerMatches_iff.mpr ⟨name, actual, hname, hget, by simp [htext]⟩

end Checks

/-! ## When the verdicts are accurate -/

/-- Each flag is the result of the matcher's own check. -/
structure RuleMismatch.Accurate (P : Platform) (mismatch : RuleMismatch)
    (rule : CompiledRoutingRule) (path method : String)
    (headerMap : HeaderMap) : Prop where
  pathOk_eq : mismatch.pathOk = rule.compiledPath.matches P path
  methodOk_eq : mismatch.methodOk = methodMatches P method rule.methods
  headersOk_eq : mismatch.headersOk = headersMatch P headerMap rule.headers
  all_eq : (mismatch.pathOk && mismatch.methodOk && mismatch.headersOk) =
    rule.matches P path method headerMap

/-- When the upper case of the method is that of a listed method, a listed
method differs from it in ASCII letter case at most. -/
def FoldedAsAscii (P : Platform) (method : String)
    (methods : Option (List String)) : Prop :=
  ∀ listed, methods = some listed →
    (∃ m ∈ listed,
      P.caseMapping.toUppercase m = P.caseMapping.toUppercase method) →
    ∃ m ∈ listed, eqIgnoreAsciiCase m method = true

/-- When all conditions hold, none of them expects an empty text of a header
that is not visible ASCII. -/
def EmptyTextsReadable (P : Platform) (headerMap : HeaderMap)
    (headers : Option (HashMap String String)) : Prop :=
  headersMatch P headerMap headers = true →
    ∀ hs, headers = some hs → ∀ entry ∈ hs.entries, entry.2 = "" →
      ∀ name actual, P.headerName entry.1 = some name →
        headerMap.get? name = some actual → P.headerText actual ≠ none

private theorem methodAccepted_eq_iff {P : Platform} {method : String}
    {methods : Option (List String)} :
    methodAccepted method methods = methodMatches P method methods ↔
      FoldedAsAscii P method methods := by
  rw [Bool.eq_iff_iff]
  constructor
  · rintro h listed rfl ⟨m, hm, hsame⟩
    have hmatches : methodMatches P method (some listed) = true :=
      List.any_eq_true.mpr ⟨m, hm, beq_iff_eq.mpr hsame⟩
    exact List.any_eq_true.mp (h.mpr hmatches)
  · intro h
    refine ⟨methodMatches_of_methodAccepted, fun hmatches => ?_⟩
    cases methods with
    | none => rfl
    | some listed =>
        obtain ⟨m, hm, hsame⟩ := List.any_eq_true.mp hmatches
        exact List.any_eq_true.mpr
          (h listed rfl ⟨m, hm, beq_iff_eq.mp hsame⟩)

private theorem headerFindings_eq_iff {P : Platform}
    {path method configPath : String} {rule : CompiledRoutingRule}
    {headerMap : HeaderMap} :
    (headerFindings P path method configPath rule headerMap).isEmpty =
        headersMatch P headerMap rule.headers ↔
      EmptyTextsReadable P headerMap rule.headers := by
  rw [Bool.eq_iff_iff]
  constructor
  · intro h hmatches headers hheaders entry hentry hempty name actual hname
      hget hnone
    have hfinding :=
      headerFindings_isEmpty_iff.mp (h.mpr hmatches) headers hheaders entry
        hentry
    obtain ⟨name', actual', hname', hget', htext⟩ :=
      explainHeader_eq_none_iff.mp hfinding
    obtain rfl : name' = name := Option.some.inj (hname'.symm.trans hname)
    obtain rfl : actual' = actual := Option.some.inj (hget'.symm.trans hget)
    rw [hnone] at htext
    cases htext
  · intro h
    refine ⟨headersMatch_of_isEmpty, fun hmatches => ?_⟩
    rw [headerFindings_isEmpty_iff]
    intro headers hheaders entry hentry
    obtain ⟨name, actual, hname, hget, htext⟩ := headerMatches_iff.mp
      (headersMatch_iff_forall.mp hmatches headers hheaders entry hentry)
    refine explainHeader_eq_none_iff.mpr ⟨name, actual, hname, hget, ?_⟩
    cases hread : P.headerText actual with
    | some text =>
        rw [hread, Option.getD_some] at htext
        rw [htext]
    | none =>
        rw [hread, Option.getD_none] at htext
        exact absurd hread (h hmatches headers hheaders entry hentry
          htext.symm name actual hname hget)

/-- The path flag is always right; the other two are exactly when no method
folds in another way than ASCII letters and no empty text is expected of an
unreadable header. -/
theorem explainRuleMismatch_accurate_iff (P : Platform)
    (rule : CompiledRoutingRule) (path method configPath : String)
    (headerMap : HeaderMap) :
    (explainRuleMismatch P path method configPath rule headerMap).Accurate P
        rule path method headerMap ↔
      FoldedAsAscii P method rule.methods ∧
        EmptyTextsReadable P headerMap rule.headers := by
  rw [← methodAccepted_eq_iff, ← headerFindings_eq_iff,
    explainRuleMismatch_eq]
  constructor
  · intro h
    exact ⟨h.methodOk_eq, h.headersOk_eq⟩
  · rintro ⟨hmethod, hheaders⟩
    rw [hmethod, hheaders]
    exact ⟨rfl, rfl, rfl, rfl⟩

/-- The upper case of the sharp s is two letters. -/
def germanUpper (c : Char) : List Char :=
  if c = 'ß' then ['S', 'S'] else [c.toUpper]

theorem germanUpper_ascii (c : Char) (h : isAsciiChar c = true) :
    germanUpper c = [c.toUpper] := by
  have hne : c ≠ 'ß' := by
    rintro rfl
    exact absurd h (by decide)
  rw [germanUpper, if_neg hne]

def germanCaseMapping : CaseMapping :=
  { CaseMapping.ascii with
    upper := germanUpper
    upper_ascii := germanUpper_ascii }

/-- A rule for all paths with the given methods and header conditions. -/
def openRule (methods : Option (List String))
    (headers : Option (HashMap String String)) : CompiledRoutingRule where
  id := "open"
  compiledPath := .prefix_ "/"
  methods := methods
  headers := headers
  serviceId := some "svc"
  upstreamUrl := none
  stripPrefix := none
  responseHeaders := none
  priority := 0

def germanPlatform : Platform :=
  { Platform.plain with caseMapping := germanCaseMapping }

/-- A rule for paths under `/api`. -/
def subtreeRule (methods : Option (List String))
    (headers : Option (HashMap String String)) : CompiledRoutingRule :=
  { openRule methods headers with compiledPath := .prefix_ "/api" }

def emptyTagRule : CompiledRoutingRule :=
  subtreeRule none (some (AList.singleton "x-tag" ""))

/-- The value is `é`, whose bytes are not visible ASCII. -/
def accentedTag : HeaderMap :=
  MultiMap.empty.insert ⟨"x-tag", by decide⟩ ⟨[0xC3, 0xA9]⟩

/-- The method `SS` matches the listed `ß`, and a condition on an empty text
matches a header that is not visible ASCII.  Of rules that do not match because
of the path, the flags say that the method and the header do not match
either. -/
theorem explainRuleMismatch_not_accurate :
    (subtreeRule (some ["ß"]) none).matches germanPlatform "/" "SS" .empty =
        false ∧
      methodMatches germanPlatform "SS" (some ["ß"]) = true ∧
      (explainRuleMismatch germanPlatform "/" "SS" "c"
        (subtreeRule (some ["ß"]) none) .empty).methodOk = false ∧
      emptyTagRule.matches .plain "/" "GET" accentedTag = false ∧
      headersMatch .plain accentedTag emptyTagRule.headers = true ∧
      (explainRuleMismatch .plain "/" "GET" "c" emptyTagRule
        accentedTag).headersOk = false := by
  refine ⟨by decide, by decide, ?_, by decide, by decide, ?_⟩
  · rw [explainRuleMismatch_eq]
    decide
  · rw [explainRuleMismatch_eq]
    decide

end ServiceRouter
