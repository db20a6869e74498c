import ServiceRouter.Main.ExplainVerdicts

/-!
# Remediation of an unmatched request

Every rule that is inspected for an unmatched request has a finding.  The
outline keeps, in row order, the first suggestion with each code.
-/

namespace ServiceRouter

open Foundation

/-! ## Findings of unmatched rules -/

theorem matches_of_ruleFindings_eq_nil {P : Platform}
    {path method configPath : String} {rule : CompiledRoutingRule}
    {headerMap : HeaderMap}
    (h : ruleFindings P path method configPath rule headerMap = []) :
    rule.matches P path method headerMap = true := by
  simp only [ruleFindings, List.append_eq_nil_iff, ite_eq_left_iff,
    List.cons_ne_nil, imp_false, Bool.not_eq_true, Bool.not_eq_false] at h
  obtain ⟨⟨hpath, hmethod⟩, hheaders⟩ := h
  have hempty := List.isEmpty_iff.mpr hheaders
  rw [CompiledRoutingRule.matches, hpath,
    methodMatches_of_methodAccepted hmethod, headersMatch_of_isEmpty hempty]
  rfl

theorem ruleFindings_ne_nil_of_resolve {P : Platform}
    {snapshot : RouterSnapshot} {path method : String} {headerMap : HeaderMap}
    (hnone : snapshot.resolve P path method headerMap = none)
    {rule : CompiledRoutingRule} (hrule : rule ∈ snapshot.rules)
    (configPath : String) :
    ruleFindings P path method configPath rule headerMap ≠ [] := by
  intro hnil
  have hunmatched := List.findFinIdx?_eq_none_iff.mp hnone rule hrule
  exact hunmatched (matches_of_ruleFindings_eq_nil hnil)

/-- Whatever headers the request has, every rule has a finding if none is
resolved. -/
theorem explainRuleMismatch_of_resolve {P : Platform}
    {snapshot : RouterSnapshot} {path method : String} {headerMap : HeaderMap}
    (hnone : snapshot.resolve P path method headerMap = none)
    {rule : CompiledRoutingRule} (hrule : rule ∈ snapshot.rules)
    (configPath : String) :
    (explainRuleMismatch P path method configPath rule headerMap).reasons ≠
        [] ∧
      (explainRuleMismatch P path method configPath rule
        headerMap).suggestions ≠ [] := by
  have hfindings := ruleFindings_ne_nil_of_resolve hnone hrule configPath
  rw [explainRuleMismatch_eq]
  simpa using hfindings

theorem inspectRules_explained {P : Platform} {snapshot : RouterSnapshot}
    {request : ExplainedRequest} {headerMap : HeaderMap}
    (hnone : snapshot.resolve P request.path request.method headerMap = none)
    {configPath : String} {verbose : Bool}
    {row : CompiledRoutingRule × RuleMismatch}
    (hrow : row ∈ inspectRules P snapshot request headerMap configPath
      verbose) :
    row.2.reasons ≠ [] ∧ row.2.suggestions ≠ [] := by
  obtain ⟨rule, hrule, rfl⟩ := List.mem_map.mp hrow
  exact explainRuleMismatch_of_resolve hnone (List.mem_of_mem_take hrule)
    configPath

/-! ## The outline -/

theorem suggestionCode_toValue (suggestion : Suggestion) :
    suggestionCode suggestion.toValue = some suggestion.code := by
  have hfield : suggestion.toValue.getField "code" =
      some (.string suggestion.code) := by
    rw [Suggestion.toValue, Value.getField_mkObject]
    rfl
  rw [suggestionCode, hfield]

theorem rowSuggestions_toValue (mismatch : RuleMismatch) (ruleId : String) :
    rowSuggestions (mismatch.toValue ruleId) =
      some (mismatch.suggestions.map Suggestion.toValue) := by
  have hfield : (mismatch.toValue ruleId).getField "suggestions" =
      some (.array (mismatch.suggestions.map Suggestion.toValue)) := by
    rw [RuleMismatch.toValue, Value.getField_mkObject]
    rfl
  rw [rowSuggestions, hfield]

/-- On the suggestions themselves the loop keeps the first of each code. -/
private theorem foldl_keepSuggestion (suggestions : List Suggestion)
    (seen : List String) (kept : List Suggestion) :
    (suggestions.map Suggestion.toValue).foldl keepSuggestion
        (seen, kept.map Suggestion.toValue) =
      let outline := suggestions.foldl (keepUnseen Suggestion.code)
        (seen, kept)
      (outline.1, outline.2.map Suggestion.toValue) := by
  induction suggestions generalizing seen kept with
  | nil => rfl
  | cons suggestion suggestions ih =>
      rw [List.map_cons, List.foldl_cons, List.foldl_cons, keepSuggestion,
        suggestionCode_toValue, keepUnseen]
      by_cases hseen : suggestion.code ∈ seen
      · simp only [hseen, if_true]
        exact ih seen kept
      · simp only [hseen, if_false]
        have hnext := ih (suggestion.code :: seen) (kept ++ [suggestion])
        rw [List.map_append] at hnext
        exact hnext

theorem mergeRemediationOutline_rows
    (rows : List (CompiledRoutingRule × RuleMismatch)) :
    mergeRemediationOutline (rows.map fun row => row.2.toValue row.1.id) =
      (keepFirst Suggestion.code
        (rows.flatMap fun row => row.2.suggestions)).map
          Suggestion.toValue := by
  have hrows : (rows.map fun row => row.2.toValue row.1.id).foldl keepRow
      ([], []) =
      ((rows.flatMap fun row => row.2.suggestions).map
        Suggestion.toValue).foldl keepSuggestion ([], []) := by
    rw [List.foldl_map, List.map_flatMap, List.foldl_flatMap]
    simp only [keepRow, rowSuggestions_toValue]
  have hloop := foldl_keepSuggestion
    (rows.flatMap fun row => row.2.suggestions) [] []
  rw [← foldl_keepUnseen_nil]
  exact congrArg Prod.snd (hrows.trans hloop)

theorem mergeRemediationOutline_rows_eq_nil_iff
    {rows : List (CompiledRoutingRule × RuleMismatch)}
    (hrows : ∀ row ∈ rows, row.2.suggestions ≠ []) :
    mergeRemediationOutline (rows.map fun row => row.2.toValue row.1.id) =
      [] ↔ rows = [] := by
  rw [mergeRemediationOutline_rows, List.map_eq_nil_iff, keepFirst_eq_nil,
    List.flatMap_eq_nil_iff]
  constructor
  · intro hnil
    by_contra hsome
    obtain ⟨row, hrow⟩ := List.exists_mem_of_ne_nil _ hsome
    exact hrows row hrow (hnil row hrow)
  · rintro rfl row hrow
    cases hrow

/-! ## The report -/

theorem inspectRules_eq_nil_iff {P : Platform} {snapshot : RouterSnapshot}
    {request : ExplainedRequest} {headerMap : HeaderMap}
    {configPath : String} {verbose : Bool} :
    inspectRules P snapshot request headerMap configPath verbose = [] ↔
      snapshot.rules = [] := by
  rw [inspectRules, List.map_eq_nil_iff, List.take_eq_nil_iff, inspectLimit]
  cases verbose <;> simp

/-- The report on a request that no rule matches. -/
def unmatchedReport (P : Platform) (args : RouteExplainArgs)
    (request : ExplainedRequest) (snapshot : RouterSnapshot) :
    UnmatchedReport :=
  let diagnostics := (inspectRules P snapshot request
    (buildHeaderMap P request.headers) args.configPath args.verbose).map
      fun row => row.2.toValue row.1.id
  { configPath := args.configPath
    requestFile := args.requestFile
    path := request.path
    method := P.caseMapping.toUppercase request.method
    inspectedRules := inspectLimit snapshot args.verbose
    remediationOutline := mergeRemediationOutline diagnostics
    diagnostics := diagnostics }

theorem explainSnapshot_of_unmatched {P : Platform}
    (lossy : List UInt8 → String) (args : RouteExplainArgs)
    {request : ExplainedRequest} {snapshot : RouterSnapshot}
    (hnone : snapshot.resolve P request.path request.method
      (buildHeaderMap P request.headers) = none) :
    explainSnapshot P lossy args request snapshot =
      .unmatched (unmatchedReport P args request snapshot) := by
  have hrule : snapshot.resolvedRule P request.path request.method
      (buildHeaderMap P request.headers) = none := by
    rw [RouterSnapshot.resolvedRule, hnone]
    rfl
  simp only [explainSnapshot, hrule]
  rfl

theorem explainSnapshot_eq_unmatched {P : Platform}
    {lossy : List UInt8 → String} {args : RouteExplainArgs}
    {request : ExplainedRequest} {snapshot : RouterSnapshot}
    {report : UnmatchedReport}
    (h : explainSnapshot P lossy args request snapshot = .unmatched report) :
    snapshot.resolve P request.path request.method
        (buildHeaderMap P request.headers) = none ∧
      report = unmatchedReport P args request snapshot := by
  unfold explainSnapshot at h
  cases hrule : snapshot.resolvedRule P request.path request.method
      (buildHeaderMap P request.headers) with
  | some rule => simp [hrule] at h
  | none =>
      simp only [hrule, RouteExplanation.unmatched.injEq] at h
      exact ⟨Option.map_eq_none_iff.mp hrule, h.symm⟩

/--
The report has one row for each of the first five rules, with `--verbose` for
each rule: what is found for the rule and the request.  Every row has a reason
and a suggestion, and the outline is the first suggestion of each code in row
order.
-/
structure UnmatchedReport.Explains (P : Platform) (args : RouteExplainArgs)
    (request : ExplainedRequest) (snapshot : RouterSnapshot)
    (report : UnmatchedReport) (rows : List (String × RuleMismatch)) :
    Prop where
  inspected : rows = (snapshot.rules.take
    (if args.verbose then snapshot.rules.length else 5)).map fun rule =>
      (rule.id, explainRuleMismatch P request.path request.method
        args.configPath rule (buildHeaderMap P request.headers))
  diagnostics : report.diagnostics = rows.map fun row => row.2.toValue row.1
  reasons : ∀ row ∈ rows, row.2.reasons ≠ []
  suggestions : ∀ row ∈ rows, row.2.suggestions ≠ []
  outline : report.remediationOutline =
    (keepFirst Suggestion.code
      (rows.flatMap fun row => row.2.suggestions)).map Suggestion.toValue
  outline_ne_nil : snapshot.rules ≠ [] → report.remediationOutline ≠ []

theorem unmatchedReport_explains (P : Platform) (args : RouteExplainArgs)
    {request : ExplainedRequest} {snapshot : RouterSnapshot}
    (hnone : snapshot.resolve P request.path request.method
      (buildHeaderMap P request.headers) = none) :
    ∃ rows, (unmatchedReport P args request snapshot).Explains P args request
      snapshot rows := by
  let inspected := inspectRules P snapshot request
    (buildHeaderMap P request.headers) args.configPath args.verbose
  have hrows : ∀ row ∈ inspected,
      row.2.reasons ≠ [] ∧ row.2.suggestions ≠ [] := fun _ hrow =>
    inspectRules_explained hnone hrow
  refine ⟨inspected.map fun row => (row.1.id, row.2), ?_⟩
  constructor
  · simp [inspected, inspectRules, inspectLimit, Function.comp_def]
  · simp [inspected, unmatchedReport, Function.comp_def]
  · intro row hrow
    obtain ⟨found, hfound, rfl⟩ := List.mem_map.mp hrow
    exact (hrows found hfound).1
  · intro row hrow
    obtain ⟨found, hfound, rfl⟩ := List.mem_map.mp hrow
    exact (hrows found hfound).2
  · rw [List.flatMap_map]
    exact mergeRemediationOutline_rows inspected
  · intro hsome hnil
    have hempty := (mergeRemediationOutline_rows_eq_nil_iff fun row hrow =>
      (hrows row hrow).2).mp hnil
    exact hsome (inspectRules_eq_nil_iff.mp hempty)

/-! ## The command -/

section Command

variable {P : Platform} {iter : IterOrder} {lossy : List UInt8 → String}
  {loadSample : String → Except String RouteRequestSample}
  {loadConfig : String → Except ConfigError AppConfig}
  {args : RouteExplainArgs}

def readSample (loadSample : String → Except String RouteRequestSample) :
    Option String → Except RouteExplainError (Option RouteRequestSample)
  | none => .ok none
  | some file => (loadSample file).mapError .requestFile >>= fun sample =>
      .ok (some sample)

theorem routeExplain_eq :
    routeExplain P iter lossy loadSample loadConfig args =
      readSample loadSample args.requestFile >>= fun sample =>
        (loadConfig args.configPath).mapError (.config args.configPath) >>=
          fun config =>
            (RouterSnapshot.fromConfig P config).mapError .routes >>=
              fun snapshot => .ok (explainSnapshot P lossy args
                (mergeRequest iter sample args.path args.method args.headers)
                snapshot) := by
  unfold routeExplain
  cases hload : loadConfig args.configPath with
  | error error =>
      cases args.requestFile with
      | none => rfl
      | some file =>
          cases hsample : loadSample file <;>
            simp [readSample, hsample, Except.mapError, bind, Except.bind,
              pure, Except.pure]
  | ok config =>
      cases hcompile : RouterSnapshot.fromConfig P config <;>
        cases args.requestFile with
        | none => simp [readSample, hcompile, Except.mapError, bind,
            Except.bind, pure, Except.pure]
        | some file =>
            cases hsample : loadSample file <;>
              simp [readSample, hcompile, hsample, Except.mapError, bind,
                Except.bind, pure, Except.pure]

/-- What is explained are the routes of the configuration that was loaded. -/
theorem routeExplain_eq_ok {explanation : RouteExplanation}
    (h : routeExplain P iter lossy loadSample loadConfig args =
      .ok explanation) :
    ∃ sample config snapshot,
      readSample loadSample args.requestFile = .ok sample ∧
      loadConfig args.configPath = .ok config ∧
      RouterSnapshot.fromConfig P config = .ok snapshot ∧
      explanation = explainSnapshot P lossy args
        (mergeRequest iter sample args.path args.method args.headers)
        snapshot := by
  simp only [routeExplain_eq, bind_eq_ok_iff, mapError_eq_ok_iff] at h
  obtain ⟨sample, hsample, config, hload, snapshot, hcompile, hdone⟩ := h
  cases hdone
  exact ⟨sample, config, snapshot, hsample, hload, hcompile, rfl⟩

/-- The command says nothing about an unmatched request only when there is no
route at all. -/
theorem routeExplain_outline_eq_nil_iff {report : UnmatchedReport}
    (h : routeExplain P iter lossy loadSample loadConfig args =
      .ok (.unmatched report)) :
    report.remediationOutline = [] ↔
      ∃ config, loadConfig args.configPath = .ok config ∧
        config.routes = [] := by
  obtain ⟨sample, config, snapshot, -, hload, hcompile, hreport⟩ :=
    routeExplain_eq_ok h
  obtain ⟨hnone, rfl⟩ := explainSnapshot_eq_unmatched hreport.symm
  have hrules : snapshot.rules = [] ↔ config.routes = [] := by
    rw [← List.length_eq_zero_iff, length_of_fromConfig hcompile,
      List.length_eq_zero_iff]
  rw [unmatchedReport, mergeRemediationOutline_rows_eq_nil_iff
    fun row hrow => (inspectRules_explained hnone hrow).2,
    inspectRules_eq_nil_iff, hrules]
  constructor
  · intro hroutes
    exact ⟨config, hload, hroutes⟩
  · rintro ⟨loaded, hloaded, hroutes⟩
    cases hloaded.symm.trans hload
    exact hroutes

end Command

/-- If no rule is resolved, every rule has a reason and a suggestion, and so
has every row of the report; the command prints no other report. -/
theorem unmatched_explained (P : Platform) (lossy : List UInt8 → String)
    (args : RouteExplainArgs) :
    (∀ (snapshot : RouterSnapshot) (path method : String)
        (headerMap : HeaderMap),
      snapshot.resolve P path method headerMap = none →
      ∀ configPath, ∀ rule ∈ snapshot.rules,
        (explainRuleMismatch P path method configPath rule
          headerMap).reasons ≠ [] ∧
        (explainRuleMismatch P path method configPath rule
          headerMap).suggestions ≠ []) ∧
    (∀ (snapshot : RouterSnapshot) (request : ExplainedRequest),
      snapshot.resolve P request.path request.method
        (buildHeaderMap P request.headers) = none →
      ∃ report rows,
        explainSnapshot P lossy args request snapshot = .unmatched report ∧
        report.Explains P args request snapshot rows) ∧
    (∀ iter loadSample loadConfig report,
      routeExplain P iter lossy loadSample loadConfig args =
        .ok (.unmatched report) →
      ∃ sample config snapshot rows,
        readSample loadSample args.requestFile = .ok sample ∧
        loadConfig args.configPath = .ok config ∧
        RouterSnapshot.fromConfig P config = .ok snapshot ∧
        report.Explains P args
          (mergeRequest iter sample args.path args.method args.headers)
          snapshot rows) := by
  refine ⟨?_, ?_, ?_⟩
  · intro snapshot path method headerMap hnone configPath rule hrule
    exact explainRuleMismatch_of_resolve hnone hrule configPath
  · intro snapshot request hnone
    obtain ⟨rows, hrows⟩ := unmatchedReport_explains P args hnone
    exact ⟨_, rows, explainSnapshot_of_unmatched lossy args hnone, hrows⟩
  · intro iter loadSample loadConfig report h
    obtain ⟨sample, config, snapshot, hsample, hload, hcompile, hreport⟩ :=
      routeExplain_eq_ok h
    obtain ⟨hnone, rfl⟩ := explainSnapshot_eq_unmatched hreport.symm
    obtain ⟨rows, hrows⟩ := unmatchedReport_explains P args hnone
    exact ⟨sample, config, snapshot, rows, hsample, hload, hcompile, hrows⟩

/-- A request for another method than the one rule has. -/
theorem unmatched_explained_at_method :
    ∃ report rows,
      explainSnapshot .plain (fun _ => "") ⟨"c", "/", "POST", [], none, false⟩
          ⟨"/", "POST", []⟩ ⟨[openRule (some ["GET"]) none]⟩ =
        .unmatched report ∧
      report.Explains .plain ⟨"c", "/", "POST", [], none, false⟩
        ⟨"/", "POST", []⟩ ⟨[openRule (some ["GET"]) none]⟩ rows ∧
      report.remediationOutline ≠ [] := by
  have hnone : RouterSnapshot.resolve .plain
      ⟨[openRule (some ["GET"]) none]⟩ "/" "POST"
        (buildHeaderMap .plain []) = none := by
    decide
  obtain ⟨report, rows, hreport, hrows⟩ :=
    (unmatched_explained .plain (fun _ => "")
      ⟨"c", "/", "POST", [], none, false⟩).2.1 _ ⟨"/", "POST", []⟩ hnone
  exact ⟨report, rows, hreport, hrows, hrows.outline_ne_nil nofun⟩

end ServiceRouter
