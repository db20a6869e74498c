import ServiceRouter.Server.HandlerOps

/-!
# The authority of upstream URLs

The authority of a URL is the text between the first `://` and the next slash,
question mark or number sign.  Whatever a route strips from a path and whatever
is left of it, the URL built for the upstream has the authority of its base.
-/

namespace ServiceRouter

open Foundation

def endsAuthority (c : Char) : Bool := c == '/' || c == '?' || c == '#'

def afterScheme : List Char → Option (List Char)
  | [] => none
  | c :: rest =>
      if ['/', '/'].isPrefixOf rest && c == ':' then some (rest.drop 2)
      else afterScheme rest

def authorityOf (url : String) : Option String :=
  (afterScheme url.toList).map fun rest =>
    String.ofList (rest.takeWhile (!endsAuthority ·))

/-! ## The base -/

/-- The scheme is found whatever follows it. -/
private theorem exists_scheme {text rest : List Char}
    (h : afterScheme text = some rest) :
    ∃ scheme, 2 ≤ scheme.length ∧ text = scheme ++ rest ∧
      ∀ other, afterScheme (scheme ++ other) = some other := by
  induction text with
  | nil => simp [afterScheme] at h
  | cons c text ih =>
      rw [afterScheme] at h
      split at h
      · rename_i hmark
        simp only [Bool.and_eq_true, beq_iff_eq, List.isPrefixOf_iff_prefix]
          at hmark
        obtain ⟨⟨after, rfl⟩, rfl⟩ := hmark
        cases h
        exact ⟨[':', '/', '/'], by simp, rfl, fun other => rfl⟩
      · rename_i hmark
        obtain ⟨scheme, hlong, rfl, hscheme⟩ := ih h
        refine ⟨c :: scheme, by simp; omega, rfl, fun other => ?_⟩
        match scheme, hlong, hmark with
        | a :: b :: scheme, _, hmark =>
            have hmark' : ¬((['/', '/'].isPrefixOf
                (a :: b :: scheme ++ other) && c == ':') = true) := by
              simpa [List.isPrefixOf] using hmark
            rw [List.cons_append, afterScheme, if_neg hmark']
            exact hscheme other

private theorem takeWhile_append_congr {p : Char → Bool}
    {first second second' : List Char}
    (h : second.takeWhile p = second'.takeWhile p) :
    (first ++ second).takeWhile p = (first ++ second').takeWhile p := by
  rw [List.takeWhile_append, List.takeWhile_append, h]

/-! ## The built URL -/

/-- A slash always stands between the trimmed base and what follows. -/
theorem buildUpstreamUrl_eq (base path : String) (query : Option String) :
    ∃ tail, buildUpstreamUrl base path query =
      String.ofList ((trimEndMatches base '/').toList ++ '/' :: tail) := by
  have hpath : ∃ tail, (if startsWith path "/" then path else s!"/{path}") =
      String.ofList ('/' :: tail) := by
    by_cases h : startsWith path "/" = true
    · obtain ⟨tail, htail⟩ := startsWith_iff.mp h
      refine ⟨tail, ?_⟩
      rw [if_pos h, ← String.ofList_toList (s := path), ← htail]
      rfl
    · exact ⟨path.toList, by simp [h, toString]⟩
  obtain ⟨tail, htail⟩ := hpath
  simp only [buildUpstreamUrl, htail]
  cases query with
  | none => exact ⟨tail, by simp [toString]⟩
  | some q =>
      by_cases h : q.toList.isEmpty = true
      · exact ⟨tail, by simp [h, toString]⟩
      · exact ⟨tail ++ '?' :: q.toList, by simp [h, toString, String.ext_iff]⟩

theorem authorityOf_buildUpstreamUrl {base authority : String}
    (hbase : authorityOf base = some authority) (hne : authority ≠ "")
    (path : String) (query : Option String) :
    authorityOf (buildUpstreamUrl base path query) = some authority := by
  unfold authorityOf at hbase
  cases hrest : afterScheme base.toList with
  | none => simp [hrest] at hbase
  | some rest =>
      rw [hrest, Option.map_some, Option.some.injEq] at hbase
      obtain ⟨scheme, _, htext, hscheme⟩ := exists_scheme hrest
      obtain ⟨tail, hurl⟩ := buildUpstreamUrl_eq base path query
      have hsolid : ∃ d ∈ rest, d ≠ '/' := by
        cases rest with
        | nil => exact absurd hbase.symm (by simpa using hne)
        | cons c rest =>
            refine ⟨c, List.mem_cons_self, ?_⟩
            rintro rfl
            exact hne (by simpa [endsAuthority] using hbase.symm)
      obtain ⟨kept, trimmed, hkept, hslashes, htrim⟩ :=
        trimEndMatches_append scheme hsolid
      rw [← htext, String.ofList_toList] at htrim
      have hends : trimmed.takeWhile (!endsAuthority ·) =
          ('/' :: tail).takeWhile (!endsAuthority ·) := by
        cases trimmed with
        | nil => simp [endsAuthority]
        | cons c trimmed =>
            simp [hslashes c List.mem_cons_self, endsAuthority]
      rw [hurl, htrim, authorityOf, String.toList_ofList,
        String.toList_ofList, List.append_assoc, hscheme, Option.map_some,
        ← takeWhile_append_congr hends, ← hkept, hbase]

/-! ## The requests sent upstream -/

/-- However a route rewrites a path, the URL and every request that the
attempts at it send go to the authority of the base. -/
theorem authorityOf_upstream {base authority : String}
    (hbase : authorityOf base = some authority) (hne : authority ≠ "")
    (rule : CompiledRoutingRule) (path : String) :
    (∀ query, authorityOf (buildUpstreamUrl base (rule.rewritePath path)
      query) = some authority) ∧
    ∀ (P : Platform) (req : Request) (extra : ExtraHeaders)
      (requestId : String) (maxRetries : Nat) (log : List ServerExchange)
      (rest : ServerProgram (Except ProxyError Response)),
      (proxyWithRetry P req base (rule.rewritePath path) extra requestId
        maxRetries).Runs log rest →
      ∀ exchange ∈ log, ∀ sent, exchange.op = .send sent →
        authorityOf sent.url = some authority := by
  refine ⟨fun query => authorityOf_buildUpstreamUrl hbase hne _ query, ?_⟩
  intro P req extra requestId maxRetries log rest hrun
  have hsends : ServerOp.Attempting
      (fun op => ∀ sent, op = .send sent →
        authorityOf sent.url = some authority)
      base (buildUpstreamUrl base (rule.rewritePath path) req.query) := by
    constructor
    · intro asked hurl sent hsent
      cases hsent
      rw [hurl]
      exact authorityOf_buildUpstreamUrl hbase hne _ _
    · intro sent hsent
      cases hsent
    · intro sent hsent
      cases hsent
  exact (proxyWithRetry_onlyAsks hsends P extra requestId maxRetries).of_runs
    hrun

def strippingRule : CompiledRoutingRule where
  id := "api"
  compiledPath := .prefix_ "/api"
  methods := none
  headers := none
  serviceId := none
  upstreamUrl := some "http://host:81//"
  stripPrefix := some "/api"
  responseHeaders := none
  priority := 0

/-- What stripping leaves is not glued to the host. -/
theorem authorityOf_upstream_remainder :
    authorityOf "http://host:81//" = some "host:81" ∧
      authorityOf (buildUpstreamUrl "http://host:81//"
        (strippingRule.rewritePath "/api@evil.example") none) =
        some "host:81" := by
  have hbase : authorityOf "http://host:81//" = some "host:81" := by decide
  exact ⟨hbase, (authorityOf_upstream hbase (by decide) strippingRule
    "/api@evil.example").1 none⟩

end ServiceRouter
