import ServiceRouter.Server.Handlers

/-!
# Which operations the parts of the handler ask

Each part of the handler asks only a few kinds of operation.  The lemmas take
any predicate those kinds satisfy.
-/

namespace ServiceRouter

open Foundation

variable {allowed : ServerOp → Prop}

theorem onlyAsks_perform {α : Type} {op : ServerOp}
    {f : op.Reply → ServerProgram α} (hop : allowed op)
    (hf : ∀ reply, (f reply).OnlyAsks allowed) :
    ((perform op).bind f).OnlyAsks allowed :=
  ⟨hop, hf⟩

/-! ## The request id -/

theorem requestIdOf_onlyAsks (hallowed : allowed .newUuid) (P : Platform)
    (req : Request) : (requestIdOf P req).OnlyAsks allowed := by
  unfold requestIdOf
  split
  · trivial
  · exact ⟨hallowed, fun _ => trivial⟩

/-! ## Choosing an instance -/

structure ServerOp.Selecting (allowed : ServerOp → Prop) (svcId : String) :
    Prop where
  isHealthy : ∀ key, allowed (.isHealthy key)
  fetchAdd : allowed (.fetchAdd svcId)
  randomHash : ∀ len, allowed (.randomHash len)

theorem indexOrPanic_onlyAsks (instances : List ServiceInstance)
    (idx : Nat) : (indexOrPanic instances idx).OnlyAsks allowed := by
  unfold indexOrPanic
  split <;> trivial

theorem remOrPanic_onlyAsks (n m : Nat) :
    (remOrPanic n m).OnlyAsks allowed := by
  unfold remOrPanic
  split <;> trivial

theorem randIndex_onlyAsks (hallowed : ∀ len, allowed (.randomHash len))
    (len : Nat) : (randIndex len).OnlyAsks allowed :=
  onlyAsks_perform (hallowed len) fun _ => remOrPanic_onlyAsks _ _

theorem healthyInstances_onlyAsks
    (hallowed : ∀ key, allowed (.isHealthy key))
    (instances : List ServiceInstance) :
    (healthyInstances instances).OnlyAsks allowed := by
  induction instances with
  | nil => trivial
  | cons inst rest ih =>
      apply onlyAsks_perform (hallowed inst.hostPort)
      intro healthy
      apply Program.onlyAsks_bind ih
      intro others
      trivial

/-- The part of the selection after the questions about health. -/
def selectAmong (instances healthy : List ServiceInstance) (svcId : String)
    (selection : InstanceSelection) : ServerProgram ServiceInstance :=
  if !healthy.isEmpty && healthy.length < instances.length then
    (healthyIndex healthy svcId selection).bind (indexOrPanic healthy)
  else
    match selection with
    | .first => indexOrPanic instances 0
    | .roundRobin => do
        let c ← perform (.fetchAdd svcId)
        let idx ← remOrPanic c instances.length
        indexOrPanic instances idx
    | .random => do
        let idx ← randIndex instances.length
        indexOrPanic instances idx
    | .weightedRoundRobin => weightedRoundRobinPick instances svcId

theorem selectServiceInstance_eq_bind (instances : List ServiceInstance)
    (svcId : String) (selection : InstanceSelection) :
    selectServiceInstance instances svcId selection =
      (healthyInstances instances).bind fun healthy =>
        selectAmong instances healthy svcId selection := rfl

section Selecting

variable {svcId : String} (hfetch : allowed (.fetchAdd svcId))
  (hrandom : ∀ len, allowed (.randomHash len))
include hfetch

theorem weightedRoundRobinPick_onlyAsks (instances : List ServiceInstance) :
    (weightedRoundRobinPick instances svcId).OnlyAsks allowed := by
  apply onlyAsks_perform hfetch
  intro _
  apply Program.onlyAsks_bind (remOrPanic_onlyAsks _ _)
  intro idx
  split
  · exact indexOrPanic_onlyAsks _ _
  · split <;> trivial

include hrandom

theorem healthyIndex_onlyAsks (healthy : List ServiceInstance)
    (selection : InstanceSelection) :
    (healthyIndex healthy svcId selection).OnlyAsks allowed := by
  cases selection with
  | first => trivial
  | roundRobin =>
      exact onlyAsks_perform hfetch fun _ => remOrPanic_onlyAsks _ _
  | random => exact randIndex_onlyAsks hrandom _
  | weightedRoundRobin =>
      apply onlyAsks_perform hfetch
      intro _
      exact Program.onlyAsks_bind (remOrPanic_onlyAsks _ _) fun _ => trivial

theorem selectAmong_onlyAsks (instances healthy : List ServiceInstance)
    (selection : InstanceSelection) :
    (selectAmong instances healthy svcId selection).OnlyAsks allowed := by
  unfold selectAmong
  split
  · exact Program.onlyAsks_bind (healthyIndex_onlyAsks hfetch hrandom _ _)
      fun _ => indexOrPanic_onlyAsks _ _
  · cases selection with
    | first => exact indexOrPanic_onlyAsks _ _
    | roundRobin =>
        apply onlyAsks_perform hfetch
        intro _
        exact Program.onlyAsks_bind (remOrPanic_onlyAsks _ _)
          fun _ => indexOrPanic_onlyAsks _ _
    | random =>
        exact Program.onlyAsks_bind (randIndex_onlyAsks hrandom _)
          fun _ => indexOrPanic_onlyAsks _ _
    | weightedRoundRobin => exact weightedRoundRobinPick_onlyAsks hfetch _

end Selecting

theorem selectServiceInstance_onlyAsks {svcId : String}
    (hallowed : ServerOp.Selecting allowed svcId)
    (instances : List ServiceInstance) (selection : InstanceSelection) :
    (selectServiceInstance instances svcId selection).OnlyAsks allowed := by
  rw [selectServiceInstance_eq_bind]
  apply Program.onlyAsks_bind
    (healthyInstances_onlyAsks hallowed.isHealthy _)
  intro healthy
  exact selectAmong_onlyAsks hallowed.fetchAdd hallowed.randomHash _ _ _

theorem upstreamBaseOf_onlyAsks
    (hselect : ∀ svcId, ServerOp.Selecting allowed svcId)
    (hresolve : ∀ svcId, allowed (.resolve svcId))
    (hconfig : allowed .loadConfig)
    (hfailure : ∀ code, allowed (.recordFailure code))
    (rule : CompiledRoutingRule) (path : String) :
    (upstreamBaseOf rule path).OnlyAsks allowed := by
  unfold upstreamBaseOf
  split
  · trivial
  · apply onlyAsks_perform (hresolve _)
    intro resolved
    cases resolved with
    | error e => exact ⟨hfailure _, fun _ => trivial⟩
    | ok instances =>
        simp only
        split
        · exact ⟨hfailure _, fun _ => trivial⟩
        · apply onlyAsks_perform hconfig
          intro config
          exact Program.onlyAsks_bind
            (selectServiceInstance_onlyAsks (hselect _) _ _) fun _ => trivial
  · exact ⟨hfailure _, fun _ => trivial⟩

/-! ## Forwarding -/

structure ServerOp.Forwarding (allowed : ServerOp → Prop) : Prop where
  loadConfig : allowed .loadConfig
  send : ∀ req, allowed (.send req)
  connectWebsocket : ∀ url, allowed (.connectWebsocket url)
  recordSuccess : ∀ u, allowed (.breakerRecordSuccess u)
  recordFailure : ∀ u, allowed (.breakerRecordFailure u)

/-- What attempts at one URL do, reported under the name of their upstream. -/
structure ServerOp.Attempting (allowed : ServerOp → Prop)
    (u url : String) : Prop where
  send : ∀ req, req.url = url → allowed (.send req)
  recordSuccess : allowed (.breakerRecordSuccess u)
  recordFailure : allowed (.breakerRecordFailure u)

theorem ServerOp.Forwarding.attempting
    (h : ServerOp.Forwarding allowed) (u url : String) :
    ServerOp.Attempting allowed u url :=
  ⟨fun req _ => h.send req, h.recordSuccess u, h.recordFailure u⟩

/-- An attempt sends nothing but the rebuilt request. -/
theorem proxyHttp_asks (P : Platform) (req : Request)
    (u rewrittenPath : String) (extra : ExtraHeaders) (requestId : String) :
    (proxyHttp P req u rewrittenPath extra requestId).OnlyAsks fun op : ServerOp =>
      ∃ body id, req.body = .ok body ∧ P.headerValue requestId = some id ∧
        op = .send {
          method := req.method
          url := buildUpstreamUrl u rewrittenPath req.query
          headers := forwardedHeaders P req.headers id
          body := body } := by
  unfold proxyHttp
  cases hbody : req.body with
  | error reason => trivial
  | ok body =>
      cases hid : P.headerValue requestId with
      | none => trivial
      | some id =>
          apply onlyAsks_perform ⟨body, id, rfl, rfl, rfl⟩
          intro reply
          cases reply with
          | error reason => trivial
          | ok upstream =>
              dsimp only
              split <;> trivial

theorem proxyHttp_onlyAsks {u rewrittenPath : String} {req : Request}
    (hallowed : ServerOp.Attempting allowed u
      (buildUpstreamUrl u rewrittenPath req.query))
    (P : Platform) (extra : ExtraHeaders) (requestId : String) :
    (proxyHttp P req u rewrittenPath extra requestId).OnlyAsks allowed := by
  apply (proxyHttp_asks P req u rewrittenPath extra requestId).mono
  rintro op ⟨body, id, -, -, rfl⟩
  exact hallowed.send _ rfl

theorem reportOutcome_onlyAsks {u url : String}
    (hallowed : ServerOp.Attempting allowed u url)
    (result : Except ProxyError Response) :
    (reportOutcome u result).OnlyAsks allowed := by
  cases result with
  | ok resp => exact ⟨hallowed.recordSuccess, fun _ => trivial⟩
  | error e => exact ⟨hallowed.recordFailure, fun _ => trivial⟩

theorem attemptWithRetries_onlyAsks {u rewrittenPath : String} {req : Request}
    (hallowed : ServerOp.Attempting allowed u
      (buildUpstreamUrl u rewrittenPath req.query))
    (P : Platform) (extra : ExtraHeaders) (requestId : String)
    (retries : Nat) :
    (attemptWithRetries P req u rewrittenPath extra requestId
      retries).OnlyAsks allowed := by
  induction retries with
  | zero =>
      apply Program.onlyAsks_bind (proxyHttp_onlyAsks hallowed ..)
      intro result
      exact Program.onlyAsks_bind (reportOutcome_onlyAsks hallowed ..)
        fun _ => trivial
  | succ retries ih =>
      apply Program.onlyAsks_bind (proxyHttp_onlyAsks hallowed ..)
      intro result
      apply Program.onlyAsks_bind (reportOutcome_onlyAsks hallowed ..)
      intro _
      cases result with
      | ok resp => trivial
      | error e => exact ih

theorem proxyWithRetry_onlyAsks {u rewrittenPath : String} {req : Request}
    (hallowed : ServerOp.Attempting allowed u
      (buildUpstreamUrl u rewrittenPath req.query))
    (P : Platform) (extra : ExtraHeaders) (requestId : String)
    (maxRetries : Nat) :
    (proxyWithRetry P req u rewrittenPath extra requestId
      maxRetries).OnlyAsks allowed := by
  unfold proxyWithRetry
  split
  · apply Program.onlyAsks_bind (proxyHttp_onlyAsks hallowed ..)
    intro result
    exact Program.onlyAsks_bind (reportOutcome_onlyAsks hallowed ..)
      fun _ => trivial
  · split
    · trivial
    · -- the rebuilt request has the same query
      refine attemptWithRetries_onlyAsks ?_ P extra requestId maxRetries
      exact hallowed

theorem forward_onlyAsks (hallowed : ServerOp.Forwarding allowed)
    (P : Platform) (req : Request)
    (rule : CompiledRoutingRule) (u rewrittenPath requestId : String) :
    (forward P req rule u rewrittenPath requestId).OnlyAsks allowed := by
  unfold forward
  split
  · apply onlyAsks_perform (hallowed.connectWebsocket _)
    intro reply
    cases reply <;> trivial
  · exact onlyAsks_perform hallowed.loadConfig
      fun config => proxyWithRetry_onlyAsks (hallowed.attempting ..) ..

end ServiceRouter
