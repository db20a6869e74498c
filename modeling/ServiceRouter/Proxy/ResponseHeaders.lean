import ServiceRouter.Proxy.HttpProxy

/-!
# Which response headers reach the client

The copy loop replaces where the request side adds, so of several values of
one name only the last is kept.
-/

namespace ServiceRouter

open Foundation

/-- The value a route sets for a name: the last one configured for it. -/
def ExtraHeaders.value? (extra : ExtraHeaders) (name : HeaderName) :
    Option HeaderValue :=
  ((⟨extra.getD []⟩ : HeaderMap).getAll name).getLast?

/-! ## The headers the code builds -/

theorem copyResponseHeaders_eq_insertAll (P : Platform)
    (respHeaders : HeaderMap) :
    copyResponseHeaders P respHeaders =
      MultiMap.empty.insertAll
        (respHeaders.pairs.filter fun entry => !isHopByHop P entry.1.asStr) := by
  have hfold (map : HeaderMap) (pairs : List (HeaderName × HeaderValue)) :
      pairs.foldl (fun headersMap entry =>
        if !isHopByHop P entry.1.asStr then headersMap.insert entry.1 entry.2
        else headersMap) map =
      map.insertAll (pairs.filter fun entry => !isHopByHop P entry.1.asStr) := by
    induction pairs generalizing map with
    | nil => rfl
    | cons entry pairs ih =>
        rw [List.foldl_cons, ih, List.filter_cons]
        cases isHopByHop P entry.1.asStr <;> rfl
  exact hfold _ _

theorem getAll_copyResponseHeaders (P : Platform) (respHeaders : HeaderMap)
    (name : HeaderName) :
    (copyResponseHeaders P respHeaders).getAll name =
      if isHopByHop P name.asStr then []
      else (respHeaders.getAll name).getLast?.toList := by
  rw [copyResponseHeaders_eq_insertAll, MultiMap.getAll_insertAll,
    getAll_filter_hopByHop]
  cases isHopByHop P name.asStr with
  | true => rfl
  | false =>
      cases h : (respHeaders.getAll name).getLast? <;> simp [h]

/-- A configured name has its configured value; of any other name the last
upstream value is left, and none of a hop-by-hop name. -/
theorem getAll_responseHeaders (P : Platform) (respHeaders : HeaderMap)
    (extra : ExtraHeaders) (name : HeaderName) :
    (responseHeaders P respHeaders extra).getAll name =
      match extra.value? name with
      | some value => [value]
      | none =>
          if isHopByHop P name.asStr then []
          else (respHeaders.getAll name).getLast?.toList := by
  cases extra with
  | none => exact getAll_copyResponseHeaders P respHeaders name
  | some extra =>
      have hvalue : ExtraHeaders.value? (some extra) name =
          ((⟨extra⟩ : HeaderMap).getAll name).getLast? := rfl
      rw [responseHeaders, MultiMap.getAll_insertAll,
        getAll_copyResponseHeaders, hvalue]
      cases ((⟨extra⟩ : HeaderMap).getAll name).getLast? <;> rfl

/-! ## The headers the client should see -/

/-- Configured names have exactly their configured value, the upstream's values
of all other end-to-end names are kept, and hop-by-hop headers are dropped. -/
structure HeadersSurvive (P : Platform) (upstream : HeaderMap)
    (extra : ExtraHeaders) (client : HeaderMap) : Prop where
  kept : ∀ name, isHopByHop P name.asStr = false → extra.value? name = none →
    client.getAll name = upstream.getAll name
  configured : ∀ name value, extra.value? name = some value →
    client.getAll name = [value]
  hopByHop : ∀ name, isHopByHop P name.asStr = true →
    extra.value? name = none → client.getAll name = []

theorem toList_getLast?_eq_iff {α : Type} {items : List α} :
    items.getLast?.toList = items ↔ items.length ≤ 1 := by
  cases items with
  | nil => simp
  | cons a rest =>
      cases rest with
      | nil => simp
      | cons b rest =>
          constructor
          · intro h
            have hlength := congrArg List.length h
            simp [List.getLast?_cons] at hlength
          · intro h
            simp at h

theorem headersSurvive_iff (P : Platform) (upstream : HeaderMap)
    (extra : ExtraHeaders) :
    HeadersSurvive P upstream extra (responseHeaders P upstream extra) ↔
      ∀ name, isHopByHop P name.asStr = false → extra.value? name = none →
        (upstream.getAll name).length ≤ 1 := by
  have hget := getAll_responseHeaders P upstream extra
  constructor
  · intro hsurvive name hname hfree
    have hkept := hsurvive.kept name hname hfree
    rw [hget, hfree] at hkept
    simp only [hname, Bool.false_eq_true, if_false] at hkept
    exact toList_getLast?_eq_iff.mp hkept
  · intro hsingle
    refine ⟨fun name hname hfree => ?_, fun name value hvalue => ?_,
      fun name hname hfree => ?_⟩
    · rw [hget, hfree]
      simp only [hname, Bool.false_eq_true, if_false]
      exact toList_getLast?_eq_iff.mpr (hsingle name hname hfree)
    · rw [hget, hvalue]
    · rw [hget, hfree]
      simp [hname]

/-- In every run that returns a response, the upstream's headers survive
exactly if no end-to-end name the route does not set has two values. -/
theorem proxied_headers_survive_iff {P : Platform} {req : Request}
    {upstreamBase rewrittenPath requestId : String} {extra : ExtraHeaders}
    {log : List ServerExchange} {response : Response}
    (hreturns : (proxyHttp P req upstreamBase rewrittenPath extra
      requestId).Returns log (.ok response)) :
    ∃ sent upstream, log = [⟨.send sent, .ok upstream⟩] ∧
      (HeadersSurvive P upstream.headers extra response.headers ↔
        ∀ name, isHopByHop P name.asStr = false →
          extra.value? name = none →
          (upstream.headers.getAll name).length ≤ 1) := by
  obtain ⟨sent, upstream, bytes, rfl, -, rfl⟩ := proxyHttp_returns_ok hreturns
  exact ⟨sent, upstream, rfl, headersSurvive_iff P upstream.headers extra⟩

def rootRequest : Request where
  method := "GET"
  path := "/"

def serverHeader : HeaderName := ⟨"server", by decide⟩

def setCookieHeader : HeaderName := ⟨"set-cookie", by decide⟩

def serverUpstream : UpstreamResponse where
  status := 200
  headers := ⟨[(serverHeader, .fromStatic "a")]⟩
  body := .ok []

theorem proxied_headers_survive_server :
    ∃ sent response,
      (proxyHttp .plain rootRequest "http://up" "/" none "id").Returns
        [⟨.send sent, .ok serverUpstream⟩] (.ok response) ∧
      HeadersSurvive .plain serverUpstream.headers none response.headers := by
  have hreturns := proxyHttp_returns_of_answer .plain rootRequest "http://up"
    "/" none "id" serverUpstream rfl rfl rfl
  obtain ⟨sent, upstream, hlog, hiff⟩ :=
    proxied_headers_survive_iff hreturns
  cases hlog
  refine ⟨_, _, hreturns, hiff.mpr fun name _ _ => ?_⟩
  simp only [serverUpstream, MultiMap.getAll_cons]
  split <;> simp [MultiMap.getAll]

def cookieUpstream : UpstreamResponse where
  status := 200
  headers := ⟨[(setCookieHeader, .fromStatic "a=1"),
    (setCookieHeader, .fromStatic "b=2")]⟩
  body := .ok []

/-- The client gets only the second cookie. -/
theorem proxied_headers_lost_cookies :
    ∃ sent response,
      (proxyHttp .plain rootRequest "http://up" "/" none "id").Returns
        [⟨.send sent, .ok cookieUpstream⟩] (.ok response) ∧
      response.headers.getAll setCookieHeader = [.fromStatic "b=2"] ∧
      ¬ HeadersSurvive .plain cookieUpstream.headers none
        response.headers := by
  have hreturns := proxyHttp_returns_of_answer .plain rootRequest "http://up"
    "/" none "id" cookieUpstream rfl rfl rfl
  refine ⟨_, _, hreturns, by decide, fun hsurvive => ?_⟩
  have hkept := hsurvive.kept setCookieHeader (by decide) rfl
  revert hkept
  decide

end ServiceRouter
