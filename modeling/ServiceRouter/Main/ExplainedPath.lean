import ServiceRouter.Main.RouteExplain
import ServiceRouter.Proxy.WsUrl
import ServiceRouter.Server.HandlerOps

/-!
# The path that is explained and the path that is sent

The explanation reports what stripping leaves of the path.  The proxy puts a
slash in front of it when there is none, so the two differ when a prefix ends
inside a segment or takes the slash behind it along.
-/

namespace ServiceRouter

open Foundation

def RouteExplanation.rewrittenPath : RouteExplanation → Option String
  | .matched report => some report.rewrittenPath
  | .unmatched _ => none

/-- What stripping leaves, if it strips, is nothing or begins with a slash. -/
def CompiledRoutingRule.KeepsLeadingSlash (rule : CompiledRoutingRule)
    (path : String) : Prop :=
  ∀ pre, rule.stripPrefix = some pre → ∀ rest,
    stripPrefix? path pre = some rest →
      rest = "" ∨ startsWith rest "/" = true

theorem startsWith_rewritePath_iff {rule : CompiledRoutingRule} {path : String}
    (hpath : startsWith path "/" = true) :
    startsWith (rule.rewritePath path) "/" = true ↔
      rule.KeepsLeadingSlash path := by
  unfold CompiledRoutingRule.rewritePath CompiledRoutingRule.KeepsLeadingSlash
  cases rule.stripPrefix with
  | none => simp [hpath]
  | some pre =>
      cases hrest : stripPrefix? path pre with
      | none => simp [hrest, hpath]
      | some rest =>
          by_cases hempty : rest = ""
          · subst hempty
            simp [hrest, startsWith]
          · simp [hrest, hempty]

theorem buildUpstreamUrl_eq_append_iff (base path : String) :
    buildUpstreamUrl base path none = trimEndMatches base '/' ++ path ↔
      startsWith path "/" = true := by
  rw [← String.toList_inj, buildUpstreamUrl_toList, String.toList_append,
    List.append_right_inj, String.toList_inj, urlTail]
  constructor
  · intro h
    by_contra hslash
    simp only [hslash] at h
    have hlength := congrArg String.length h
    simp [toString] at hlength
  · intro hslash
    simp [hslash]

/-- All requests that the attempts at an upstream send go to one URL. -/
theorem proxyWithRetry_sends_to (P : Platform) (req : Request)
    (base rewrittenPath : String) (extra : ExtraHeaders) (requestId : String)
    (maxRetries : Nat) :
    (proxyWithRetry P req base rewrittenPath extra requestId
      maxRetries).OnlyAsks fun op : ServerOp => ∀ sent, op = .send sent →
        sent.url = buildUpstreamUrl base rewrittenPath req.query := by
  have hsends : ServerOp.Attempting
      (fun op => ∀ sent, op = .send sent →
        sent.url = buildUpstreamUrl base rewrittenPath req.query)
      base (buildUpstreamUrl base rewrittenPath req.query) := by
    constructor
    · intro asked hurl sent hsent
      cases hsent
      exact hurl
    · intro sent hsent
      cases hsent
    · intro sent hsent
      cases hsent
  exact proxyWithRetry_onlyAsks hsends P extra requestId maxRetries

/-- The requests sent upstream go to the URL of the path that is reported, and
that URL has the path behind its base, as reported, exactly when stripping
keeps the leading slash. -/
theorem explained_path_sent_iff {P : Platform} {snapshot : RouterSnapshot}
    (request : ExplainedRequest) {rule : CompiledRoutingRule}
    (hrule : snapshot.resolvedRule P request.path request.method
      (buildHeaderMap P request.headers) = some rule)
    (hpath : startsWith request.path "/" = true)
    (lossy : List UInt8 → String) (args : RouteExplainArgs) (base : String) :
    ∃ reported,
      (explainSnapshot P lossy args request snapshot).rewrittenPath =
        some reported ∧
      (∀ (req : Request) (extra : ExtraHeaders) (requestId : String)
        (maxRetries : Nat),
        (proxyWithRetry P req base (rule.rewritePath request.path) extra
          requestId maxRetries).OnlyAsks fun op : ServerOp =>
            ∀ sent, op = .send sent →
              sent.url = buildUpstreamUrl base reported req.query) ∧
      (buildUpstreamUrl base reported none =
          trimEndMatches base '/' ++ reported ↔
        rule.KeepsLeadingSlash request.path) := by
  refine ⟨rule.rewritePath request.path, ?_,
    fun req extra requestId maxRetries => proxyWithRetry_sends_to P req base
      (rule.rewritePath request.path) extra requestId maxRetries, ?_⟩
  · rw [explainSnapshot, hrule]
    rfl
  · rw [buildUpstreamUrl_eq_append_iff]
    exact startsWith_rewritePath_iff hpath

/-- A rule that strips `/api` in front of an upstream. -/
def apiRule : CompiledRoutingRule where
  id := "api"
  compiledPath := .prefix_ "/api"
  methods := none
  headers := none
  serviceId := none
  upstreamUrl := some "http://host"
  stripPrefix := some "/api"
  responseHeaders := none
  priority := 0

def apiRequest (path : String) : ExplainedRequest where
  path := path
  method := "GET"
  headers := []

def apiArgs : RouteExplainArgs where
  configPath := "config.yaml"
  path := "/"
  method := "GET"
  headers := []
  requestFile := none
  verbose := false

/-- A prefix that ends with a segment. -/
theorem explained_path_sent_at_segment :
    RouterSnapshot.resolvedRule .plain ⟨[apiRule]⟩ "/api/v2" "GET" .empty =
        some apiRule ∧
      ∃ reported,
        (explainSnapshot .plain (fun _ => "") apiArgs (apiRequest "/api/v2")
          ⟨[apiRule]⟩).rewrittenPath = some reported ∧
        buildUpstreamUrl "http://host" reported none =
          trimEndMatches "http://host" '/' ++ reported := by
  have hrule : RouterSnapshot.resolvedRule .plain ⟨[apiRule]⟩ "/api/v2" "GET"
      .empty = some apiRule := rfl
  have hkeeps : apiRule.KeepsLeadingSlash "/api/v2" := by
    rintro pre hpre rest hrest
    cases hpre
    have hv2 : stripPrefix? "/api/v2" "/api" = some "/v2" := by decide
    cases hrest.symm.trans hv2
    exact .inr (by decide)
  obtain ⟨reported, hreported, -, hsent⟩ := explained_path_sent_iff
    (apiRequest "/api/v2") hrule (by decide) (fun _ => "") apiArgs
    "http://host"
  exact ⟨hrule, reported, hreported, hsent.mpr hkeeps⟩

/-- A prefix that ends inside a segment: `v2` is reported and `/v2` is sent. -/
theorem explained_path_not_sent :
    RouterSnapshot.resolvedRule .plain ⟨[apiRule]⟩ "/apiv2" "GET" .empty =
        some apiRule ∧
      (explainSnapshot .plain (fun _ => "") apiArgs (apiRequest "/apiv2")
        ⟨[apiRule]⟩).rewrittenPath = some "v2" ∧
      buildUpstreamUrl "http://host" (apiRule.rewritePath "/apiv2") none =
        "http://host/v2" ∧
      buildUpstreamUrl "http://host" (apiRule.rewritePath "/apiv2") none ≠
        trimEndMatches "http://host" '/' ++ "v2" := by
  refine ⟨rfl, rfl, by decide, by decide⟩

end ServiceRouter
