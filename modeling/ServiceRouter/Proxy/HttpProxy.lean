import ServiceRouter.Proxy.HopByHop
import ServiceRouter.Server.Interface

/-!
# Forwarding HTTP requests

One upstream exchange: the request is rebuilt without hop-by-hop headers, sent,
and the response is rebuilt for the client.
-/

namespace ServiceRouter

open Foundation

/-- Extra response headers of a route, in the order they are set. -/
abbrev ExtraHeaders := Option (List (HeaderName × HeaderValue))

def buildUpstreamUrl (base path : String) (query : Option String) : String :=
  let base := trimEndMatches base '/'
  let path := if startsWith path "/" then path else s!"/{path}"
  match query with
  | some q => if !q.toList.isEmpty then s!"{base}{path}?{q}" else s!"{base}{path}"
  | none => s!"{base}{path}"

/-- `RequestBuilder::header` adds a value, also to a name already present. -/
def forwardedHeaders (P : Platform) (headers : HeaderMap)
    (requestId : HeaderValue) : HeaderMap :=
  let copied := headers.pairs.foldl (fun forwarded entry =>
    if !isHopByHop P entry.1.asStr then forwarded.append entry.1 entry.2
    else forwarded) MultiMap.empty
  copied.append xRequestId requestId

def copyResponseHeaders (P : Platform) (respHeaders : HeaderMap) : HeaderMap :=
  respHeaders.pairs.foldl (fun headersMap entry =>
    if !isHopByHop P entry.1.asStr then headersMap.insert entry.1 entry.2
    else headersMap) MultiMap.empty

/-- The headers of the response to the client: those copied from the upstream
response, then the extra headers of the route. -/
def responseHeaders (P : Platform) (respHeaders : HeaderMap)
    (extra : ExtraHeaders) : HeaderMap :=
  let headersMap := copyResponseHeaders P respHeaders
  match extra with
  | some extra => headersMap.insertAll extra
  | none => headersMap

def proxyHttp (P : Platform) (req : Request)
    (upstreamBase rewrittenPath : String) (extra : ExtraHeaders)
    (requestId : String) : ServerProgram (Except ProxyError Response) :=
  let url := buildUpstreamUrl upstreamBase rewrittenPath req.query
  match req.body with
  | .error reason => return .error (.bodyRead reason)
  | .ok body =>
      match P.headerValue requestId with
      -- The builder keeps the error and reports it when it is sent.
      | none => return .error (.upstreamConnection P.builderError)
      | some id => do
          let reply ← perform (.send {
            method := req.method
            url := url
            headers := forwardedHeaders P req.headers id
            body := body })
          match reply with
          | .error reason => return .error (.upstreamConnection reason)
          | .ok upstream =>
              match upstream.body with
              | .error reason => return .error (.upstreamConnection reason)
              | .ok bytes => return .ok {
                  status := upstream.status
                  headers := responseHeaders P upstream.headers extra
                  body := bytes }

/-! ## Runs -/

theorem proxyHttp_returns_of_answer (P : Platform) (req : Request)
    (upstreamBase rewrittenPath : String) (extra : ExtraHeaders)
    (requestId : String) (upstream : UpstreamResponse) {body bytes : Bytes}
    {id : HeaderValue} (hbody : req.body = .ok body)
    (hid : P.headerValue requestId = some id)
    (hbytes : upstream.body = .ok bytes) :
    (proxyHttp P req upstreamBase rewrittenPath extra requestId).Returns
      [⟨.send {
          method := req.method
          url := buildUpstreamUrl upstreamBase rewrittenPath req.query
          headers := forwardedHeaders P req.headers id
          body := body }, .ok upstream⟩]
      (.ok {
        status := upstream.status
        headers := responseHeaders P upstream.headers extra
        body := bytes }) := by
  unfold proxyHttp
  simp only [hbody, hid, Program.bind_eq, returns_perform_bind]
  refine ⟨.ok upstream, [], rfl, ?_⟩
  simp only [hbytes, Program.pure_eq, Program.returns_done, and_self]

theorem proxyHttp_returns_of_refusal (P : Platform) (req : Request)
    (upstreamBase rewrittenPath : String) (extra : ExtraHeaders)
    (requestId reason : String) {body : Bytes} {id : HeaderValue}
    (hbody : req.body = .ok body) (hid : P.headerValue requestId = some id) :
    (proxyHttp P req upstreamBase rewrittenPath extra requestId).Returns
      [⟨.send {
          method := req.method
          url := buildUpstreamUrl upstreamBase rewrittenPath req.query
          headers := forwardedHeaders P req.headers id
          body := body }, .error reason⟩]
      (.error (.upstreamConnection reason)) := by
  unfold proxyHttp
  simp only [hbody, hid, Program.bind_eq, returns_perform_bind]
  refine ⟨.error reason, [], rfl, ?_⟩
  simp only [Program.pure_eq, Program.returns_done, and_self]

/-- A response is returned only after the upstream has answered, and it carries
the status, the copied headers and the body of that answer. -/
theorem proxyHttp_returns_ok {P : Platform} {req : Request}
    {upstreamBase rewrittenPath requestId : String} {extra : ExtraHeaders}
    {log : List ServerExchange} {response : Response}
    (h : (proxyHttp P req upstreamBase rewrittenPath extra requestId).Returns
      log (.ok response)) :
    ∃ sent upstream bytes, log = [⟨.send sent, .ok upstream⟩] ∧
      upstream.body = .ok bytes ∧
      response = {
        status := upstream.status
        headers := responseHeaders P upstream.headers extra
        body := bytes } := by
  unfold proxyHttp at h
  cases hbody : req.body with
  | error reason => simp [hbody] at h
  | ok body =>
      cases hid : P.headerValue requestId with
      | none => simp [hbody, hid] at h
      | some id =>
          simp only [hbody, hid, Program.bind_eq, returns_perform_bind] at h
          obtain ⟨reply, rest, rfl, h⟩ := h
          cases reply with
          | error reason => simp at h
          | ok upstream =>
              cases hbytes : upstream.body with
              | error reason => simp [hbytes] at h
              | ok bytes =>
                  simp only [hbytes, Program.pure_eq, Program.returns_done,
                    Except.ok.injEq] at h
                  obtain ⟨rfl, rfl⟩ := h
                  exact ⟨_, upstream, bytes, rfl, hbytes, rfl⟩

end ServiceRouter
