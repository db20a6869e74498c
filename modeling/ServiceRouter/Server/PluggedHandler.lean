import ServiceRouter.Server.AppState

/-!
# The handler of a server with built-in plugins

With the answers of its plugins and the request id given, the handler is the
handler without plugins on a request with more headers, except that the pairs
of the response plugins are inserted before the request id is echoed.
-/

namespace ServiceRouter

open Foundation

/-! ## The handler by its last step -/

/-- `handleRouted` with another last step. -/
def routeBy (P : Platform)
    (finish : Except ProxyError Response →
      ServerProgram (Except ProxyError Response))
    (path : String) (req : Request) (rule : CompiledRoutingRule)
    (requestId : String) : ServerProgram (Except ProxyError Response) := do
  perform (.recordRouteHit rule.id)
  let base ← upstreamBaseOf rule path
  match base with
  | .error e => return .error e
  | .ok upstreamBase => do
      let allowed ← perform (.breakerAllow upstreamBase)
      match allowed with
      | false => do
          perform (.recordFailure "circuit_breaker_open")
          return .error (.upstreamConnection
            s!"circuit breaker open for {upstreamBase}")
      | true => do
          let forwarded ← forward P req rule upstreamBase
            (rule.rewritePath path) requestId
          finish forwarded

/-- What is left of the handler once the request plugins have run. -/
def handleBy (P : Platform)
    (finish : Except ProxyError Response →
      ServerProgram (Except ProxyError Response))
    (req routed : Request) (requestId : String) :
    ServerProgram (Except ProxyError Response) := do
  let router ← perform .loadRouter
  match RouterSnapshot.resolvedRule P router req.path req.method
      routed.headers with
  | none => do
      perform (.recordFailure "no_matching_route")
      return .error (.noInstances req.path)
  | some rule => routeBy P finish req.path routed rule requestId

def Request.withHeaders (req : Request)
    (pairs : List (HeaderName × HeaderValue)) : Request :=
  { req with headers := req.headers.insertAll pairs }

/-- The last step with the pairs of the response plugins. -/
def finishWith (P : Platform) (pairs : List (HeaderName × HeaderValue))
    (requestId : String) (forwarded : Except ProxyError Response) :
    ServerProgram (Except ProxyError Response) :=
  match forwarded with
  | .error e => do
      perform (.recordFailure (failureCodeForProxy e))
      return .error e
  | .ok res =>
      return .ok (echoRequestId P requestId
        { res with headers := res.headers.insertAll pairs })

def requestIdWith (P : Platform) (uuid : String) (req : Request) : String :=
  ((req.headers.get? xRequestId).bind P.headerText).getD uuid

section Answered

variable {P : Platform} {chain : List BuiltinPlugin} {uuid : String}

theorem forwarding_ownAnswers :
    ServerOp.Forwarding fun op => ownAnswers P chain uuid op = none :=
  ⟨rfl, fun _ => rfl, fun _ => rfl, fun _ => rfl, fun _ => rfl⟩

theorem upstreamBaseOf_ownAnswers (rule : CompiledRoutingRule)
    (path : String) :
    (upstreamBaseOf rule path).OnlyAsks
      fun op => ownAnswers P chain uuid op = none := by
  apply upstreamBaseOf_onlyAsks
  · intro svcId
    exact ⟨fun _ => rfl, rfl, fun _ => rfl⟩
  · intro svcId
    rfl
  · rfl
  · intro code
    rfl

theorem answering_perform {α : Type} (op : ServerOp)
    (hop : ownAnswers P chain uuid op = none)
    {f g : op.Reply → ServerProgram α}
    (h : ∀ reply, (f reply).answering (ownAnswers P chain uuid) = g reply) :
    ((perform op).bind f).answering (ownAnswers P chain uuid) =
      (perform op).bind g := by
  rw [answering_perform_of_none hop]
  congr 1
  funext reply
  exact h reply

theorem answering_part {α β : Type} {p : ServerProgram α}
    (hp : p.OnlyAsks fun op => ownAnswers P chain uuid op = none)
    {f g : α → ServerProgram β}
    (h : ∀ a, (f a).answering (ownAnswers P chain uuid) = g a) :
    (p.bind f).answering (ownAnswers P chain uuid) = p.bind g := by
  rw [Program.answering_bind_of_onlyAsks hp]
  congr 1
  funext a
  exact h a

theorem answering_routeBy
    (finish : Except ProxyError Response →
      ServerProgram (Except ProxyError Response))
    (path : String) (req : Request) (rule : CompiledRoutingRule)
    (requestId : String) :
    (routeBy P finish path req rule requestId).answering
        (ownAnswers P chain uuid) =
      routeBy P (fun forwarded =>
        (finish forwarded).answering (ownAnswers P chain uuid))
        path req rule requestId := by
  refine answering_perform (.recordRouteHit rule.id) rfl fun _ => ?_
  refine answering_part (upstreamBaseOf_ownAnswers rule path) fun base => ?_
  cases base with
  | error e => rfl
  | ok upstreamBase =>
      refine answering_perform (.breakerAllow upstreamBase) rfl
        fun allowed => ?_
      cases allowed with
      | false => rfl
      | true =>
          exact answering_part (forward_onlyAsks forwarding_ownAnswers ..)
            fun forwarded => rfl

theorem answering_handleBy
    (finish : Except ProxyError Response →
      ServerProgram (Except ProxyError Response))
    (req routed : Request) (requestId : String) :
    (handleBy P finish req routed requestId).answering
        (ownAnswers P chain uuid) =
      handleBy P (fun forwarded =>
        (finish forwarded).answering (ownAnswers P chain uuid))
        req routed requestId := by
  refine answering_perform .loadRouter rfl fun router => ?_
  cases hrule : RouterSnapshot.resolvedRule P router req.path req.method
      routed.headers with
  | none => rfl
  | some rule => exact answering_routeBy ..

theorem answering_finishForwarded (requestId : String)
    (forwarded : Except ProxyError Response) :
    (finishForwarded P (chain.map BuiltinPlugin.name) requestId
        forwarded).answering (ownAnswers P chain uuid) =
      finishWith P (responsePairsOf P chain.reverse) requestId
        forwarded := by
  cases forwarded with
  | error e => rfl
  | ok res =>
      exact Program.answering_bind_of_done
        (answering_runOnResponse (placed_reverse chain) res) _

theorem answering_requestIdOf (req : Request) :
    (requestIdOf P req).answering (ownAnswers P chain uuid) =
      .done (requestIdWith P uuid req) := by
  unfold requestIdOf requestIdWith
  cases (req.headers.get? xRequestId).bind P.headerText with
  | some id => rfl
  | none => rfl

/-- The plugins and the id generator have answered. -/
theorem answering_proxyHandler (req : Request) :
    (proxyHandler P (chain.map BuiltinPlugin.name) req).answering
        (ownAnswers P chain uuid) =
      handleBy P
        (finishWith P (responsePairsOf P chain.reverse)
          (requestIdWith P uuid req))
        req (req.withHeaders (requestPairsOf P chain))
        (requestIdWith P uuid req) := by
  have hfinish : (fun forwarded => (finishForwarded P
      (chain.map BuiltinPlugin.name) (requestIdWith P uuid req)
        forwarded).answering (ownAnswers P chain uuid)) =
      finishWith P (responsePairsOf P chain.reverse)
        (requestIdWith P uuid req) := by
    funext forwarded
    exact answering_finishForwarded ..
  rw [← hfinish, ← answering_handleBy]
  exact (Program.answering_bind_of_done (answering_requestIdOf req) _).trans
    (Program.answering_bind_of_done
      (answering_runOnRequest (placed_zipIdx chain) req) _)

end Answered

/-! ## Serving it -/

def Serving.result {α : Type} (P : Platform) (world : World) (s : Serving)
    (p : ServerProgram α) : Option α :=
  (Program.serve (Serving.answer P world) s p).result

section Served

variable {P : Platform} {world : World} {s : Serving}
  {finish : Except ProxyError Response →
    ServerProgram (Except ProxyError Response)}
  {req routed : Request} {requestId : String}

theorem result_perform {α : Type} (op : ServerOp)
    (f : op.Reply → ServerProgram α) :
    s.result P world ((perform op).bind f) =
      (s.answer P world op).2.result P world (f (s.answer P world op).1) :=
  rfl

theorem result_handleBy_of_none
    (h : RouterSnapshot.resolvedRule P s.state.router req.path req.method
      routed.headers = none) :
    s.result P world (handleBy P finish req routed requestId) =
      some (.error (.noInstances req.path)) := by
  refine (result_perform .loadRouter _).trans ?_
  simp only [Serving.answer, h]
  rfl

/-- The response comes from the handler whose plugins have answered. -/
theorem serve_response (P : Platform) (world : World) (state : AppState)
    (req : Request) :
    (state.serve P world req).2 =
      (Serving.result P world ⟨state, 0⟩ (handleBy P
        (finishWith P (responsePairsOf P state.pluginChain.reverse)
          (requestIdWith P world.uuid req))
        req (req.withHeaders (requestPairsOf P state.pluginChain))
        (requestIdWith P world.uuid req))).map clientResponse := by
  rw [serve_eq_answering, AppState.handler, answering_proxyHandler]
  rfl

end Served

end ServiceRouter
