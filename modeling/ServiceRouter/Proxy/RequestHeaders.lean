import ServiceRouter.Server.HandlerOps

/-!
# Which request headers reach the upstream

The request is rebuilt by adding: the end-to-end headers of the client in their
order and then the request id, which joins whatever the client sent under that
name.
-/

namespace ServiceRouter

open Foundation

/-! ## The headers the code builds -/

theorem forwardedHeaders_pairs (P : Platform) (headers : HeaderMap)
    (id : HeaderValue) :
    (forwardedHeaders P headers id).pairs =
      (headers.pairs.filter fun entry => !isHopByHop P entry.1.asStr) ++
        [(xRequestId, id)] := by
  have hfold (forwarded : HeaderMap)
      (pairs : List (HeaderName × HeaderValue)) :
      (pairs.foldl (fun forwarded entry =>
        if !isHopByHop P entry.1.asStr then forwarded.append entry.1 entry.2
        else forwarded) forwarded).pairs =
      forwarded.pairs ++
        pairs.filter fun entry => !isHopByHop P entry.1.asStr := by
    induction pairs generalizing forwarded with
    | nil => simp
    | cons entry pairs ih =>
        rw [List.foldl_cons, ih, List.filter_cons]
        cases isHopByHop P entry.1.asStr with
        | true => simp
        | false => simp [MultiMap.append]
  rw [forwardedHeaders, MultiMap.append, hfold]
  rfl

theorem getAll_forwardedHeaders (P : Platform) (headers : HeaderMap)
    (id : HeaderValue) (name : HeaderName) :
    (forwardedHeaders P headers id).getAll name =
      (if isHopByHop P name.asStr then [] else headers.getAll name) ++
        if name = xRequestId then [id] else [] := by
  have hcopied := getAll_filter_hopByHop P headers name
  simp only [MultiMap.getAll] at hcopied
  rw [MultiMap.getAll, forwardedHeaders_pairs, List.filter_append,
    List.map_append, hcopied]
  congr 1
  by_cases h : name = xRequestId
  · simp [h]
  · simp [h, Ne.symm h]

theorem isHopByHop_xRequestId (P : Platform) :
    isHopByHop P xRequestId.asStr = false := by
  rw [isHopByHop, toLowercase_headerName]
  decide

/-! ## The headers the upstream should see -/

/-- The client's end-to-end headers, each name with its values in order, and
one request id. -/
structure HeadersForwarded (P : Platform) (inbound : HeaderMap)
    (id : HeaderValue) (sent : HeaderMap) : Prop where
  kept : ∀ name, isHopByHop P name.asStr = false → name ≠ xRequestId →
    sent.getAll name = inbound.getAll name
  dropped : ∀ name, isHopByHop P name.asStr = true → sent.getAll name = []
  requestId : sent.getAll xRequestId = [id]

theorem headersForwarded_iff (P : Platform) (inbound : HeaderMap)
    (id : HeaderValue) :
    HeadersForwarded P inbound id (forwardedHeaders P inbound id) ↔
      inbound.getAll xRequestId = [] := by
  have hget := getAll_forwardedHeaders P inbound id
  have hid : (forwardedHeaders P inbound id).getAll xRequestId =
      inbound.getAll xRequestId ++ [id] := by
    simp [hget, isHopByHop_xRequestId]
  constructor
  · intro hforwarded
    have hsingle := hforwarded.requestId
    rw [hid] at hsingle
    simpa using hsingle
  · intro hfree
    constructor
    · intro name hname hother
      simp [hget, hname, hother]
    · intro name hname
      have hother : name ≠ xRequestId := by
        rintro rfl
        simp [isHopByHop_xRequestId] at hname
      simp [hget, hname, hother]
    · rw [hid, hfree]
      rfl

/-- The request that an attempt sends has the headers it should have exactly
if the client sent no request id of its own. -/
theorem headers_forwarded_iff {P : Platform} {req : Request}
    {upstreamBase rewrittenPath requestId : String} {extra : ExtraHeaders}
    {log : List ServerExchange}
    {rest : ServerProgram (Except ProxyError Response)}
    (hrun : (proxyHttp P req upstreamBase rewrittenPath extra
      requestId).Runs log rest)
    {exchange : ServerExchange} (hmem : exchange ∈ log) :
    ∃ sent id, exchange.op = .send sent ∧
      P.headerValue requestId = some id ∧
      (HeadersForwarded P req.headers id sent.headers ↔
        req.headers.getAll xRequestId = []) := by
  have hasked := (proxyHttp_asks P req upstreamBase rewrittenPath extra
    requestId).of_runs hrun exchange hmem
  obtain ⟨body, id, -, hid, hop⟩ := hasked
  exact ⟨_, id, hop, hid, headersForwarded_iff P req.headers id⟩

def cookieHeader : HeaderName := ⟨"cookie", by decide⟩

def twoCookies : Request where
  method := "GET"
  path := "/"
  headers := ⟨[(cookieHeader, .fromStatic "a=1"),
    (connectionHeader, .fromStatic "close"),
    (cookieHeader, .fromStatic "b=2")]⟩

def tracedRequest : Request where
  method := "GET"
  path := "/"
  headers := ⟨[(xRequestId, .fromStatic "abc")]⟩

theorem headers_forwarded_twoCookies :
    ∃ sent rest, (proxyHttp .plain twoCookies "http://up" "/" none
        "abc").Runs [⟨.send sent, .error "refused"⟩] rest ∧
      HeadersForwarded .plain twoCookies.headers (.fromStatic "abc")
        sent.headers := by
  have hrun := proxyHttp_returns_of_refusal .plain twoCookies "http://up" "/"
    none "abc" "refused" rfl rfl
  obtain ⟨sent, id, hop, hid, hiff⟩ :=
    headers_forwarded_iff hrun List.mem_cons_self
  cases hop
  cases hid
  exact ⟨_, _, hrun, hiff.mpr (by decide)⟩

/-- The id of the client, which is the id of the request, arrives twice. -/
theorem headers_forwarded_traced :
    ∃ sent rest, (proxyHttp .plain tracedRequest "http://up" "/" none
        "abc").Runs [⟨.send sent, .error "refused"⟩] rest ∧
      sent.headers.getAll xRequestId =
        [.fromStatic "abc", .fromStatic "abc"] ∧
      ¬HeadersForwarded .plain tracedRequest.headers (.fromStatic "abc")
        sent.headers := by
  have hrun := proxyHttp_returns_of_refusal .plain tracedRequest "http://up" "/"
    none "abc" "refused" rfl rfl
  refine ⟨_, _, hrun, by decide, fun hforwarded => ?_⟩
  have hsingle := hforwarded.requestId
  revert hsingle
  decide

end ServiceRouter
