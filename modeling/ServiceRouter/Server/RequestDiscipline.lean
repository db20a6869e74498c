import ServiceRouter.Foundation.Monitor
import ServiceRouter.Server.HandlerRuns

/-!
# What a request may do at each point of its run

Whatever the plugins, the registries, the breaker and the upstreams answer, a
request is routed once, asks the breaker once for an upstream its rule allows,
and contacts that upstream only after it was admitted.  The conditions speak of
the exchanges the request has made so far, so that they hold of every request
in every interleaving.
-/

namespace ServiceRouter

open Foundation

/-! ## What the exchanges so far have settled -/

/-- The request as the hooks have left it. -/
def requestAfter (req : Request) (log : List ServerExchange) : Request :=
  log.foldl (fun current exchange =>
    match exchange with
    | ⟨.onRequest _ _, .ok (.continue_ next)⟩ => next
    | _ => current) req

/-- The configuration that was loaded last. -/
def configAfter (log : List ServerExchange) : Option AppConfig :=
  log.foldl (fun current exchange =>
    match exchange with
    | ⟨.loadConfig, config⟩ => some config
    | _ => current) none

def isSend (exchange : ServerExchange) : Bool :=
  match exchange.op with
  | .send _ => true
  | _ => false

/-- How often an upstream was asked. -/
def attempts (log : List ServerExchange) : Nat := log.countP isSend

section Conditions

variable (P : Platform) (req : Request) (log : List ServerExchange)

/-- The rule that a loaded snapshot selects for the path and the method of the
client and the headers the hooks have left. -/
def RoutedTo (rule : CompiledRoutingRule) : Prop :=
  ∃ router : RouterSnapshot, (⟨.loadRouter, router⟩ : ServerExchange) ∈ log ∧
    router.resolvedRule P req.path req.method
      (requestAfter req log).headers = some rule

/-- The upstream of a rule, or an instance a registry answered for its
service. -/
inductive Targets (rule : CompiledRoutingRule) : String → Prop
  | direct {u : String} (hurl : rule.upstreamUrl = some u) : Targets rule u
  | discovered {svcId : String} {instances : List ServiceInstance}
      {inst : ServiceInstance} (hurl : rule.upstreamUrl = none)
      (hservice : rule.serviceId = some svcId)
      (hanswer : (⟨.resolve svcId, .ok instances⟩ : ServerExchange) ∈ log)
      (hinst : inst ∈ instances) : Targets rule inst.baseUrl

structure AdmittedFor (rule : CompiledRoutingRule) (u : String) : Prop where
  routed : RoutedTo P req log rule
  target : Targets log rule u
  admitted : admission u ∈ log

/-- An HTTP request may be sent while attempts are left and all before it have
failed. -/
structure SendPermitted (sent : UpstreamRequest) (rule : CompiledRoutingRule)
    (u : String) (config : AppConfig) : Prop where
  admitted : AdmittedFor P req log rule u
  plain : isWebsocketUpgrade P (requestAfter req log) = false
  method : sent.method = (requestAfter req log).method
  url : sent.url = buildUpstreamUrl u (rule.rewritePath req.path)
    (requestAfter req log).query
  body : (requestAfter req log).body = .ok sent.body
  loaded : configAfter log = some config
  attemptsLeft : attempts log ≤ config.server.maxRetries
  failedBefore : ∀ exchange ∈ log, isSend exchange = true →
    failedAttempt exchange = true

structure ConnectPermitted (url : String) (rule : CompiledRoutingRule)
    (u : String) : Prop where
  admitted : AdmittedFor P req log rule u
  upgrade : isWebsocketUpgrade P (requestAfter req log) = true
  url : url = buildWsUrl u (rule.rewritePath req.path)
    (requestAfter req log).query
  first : ∀ earlier reply,
    (⟨.connectWebsocket earlier, reply⟩ : ServerExchange) ∉ log

/-- What a request with these exchanges behind it may do next. -/
def Permitted : ServerOp → Prop
  | .onRequest _ current =>
      current = requestAfter req log ∧
        ∀ router, (⟨.loadRouter, router⟩ : ServerExchange) ∉ log
  | .loadRouter => ∀ router, (⟨.loadRouter, router⟩ : ServerExchange) ∉ log
  | .recordRouteHit ruleId => ∃ rule, RoutedTo P req log rule ∧
      ruleId = rule.id
  | .resolve svcId => ∃ rule, RoutedTo P req log rule ∧
      rule.upstreamUrl = none ∧ rule.serviceId = some svcId
  | .breakerAllow u => (∃ rule, RoutedTo P req log rule ∧
      Targets log rule u) ∧
      ∀ v answer, (⟨.breakerAllow v, answer⟩ : ServerExchange) ∉ log
  | .send sent => ∃ rule u config,
      SendPermitted P req log sent rule u config
  | .connectWebsocket url => ∃ rule u, ConnectPermitted P req log url rule u
  -- The attempt just made is reported to the breaker of its upstream.
  | .breakerRecordSuccess u => admission u ∈ log ∧
      ∃ attempt, log.getLast? = some attempt ∧ isSend attempt = true ∧
        failedAttempt attempt = false
  | .breakerRecordFailure u => admission u ∈ log ∧
      (attempts log = 0 ∨ ∃ attempt, log.getLast? = some attempt ∧
        isSend attempt = true ∧ failedAttempt attempt = true)
  | .onResponse _ _ => ∃ u, admission u ∈ log
  | _ => True

end Conditions

/-! ## What later exchanges leave as it is -/

def ServerOp.NoRequestHook (op : ServerOp) : Prop :=
  ∀ position req, op ≠ .onRequest position req

theorem requestAfter_append {rest : List ServerExchange}
    (hrest : ∀ exchange ∈ rest, exchange.op.NoRequestHook) (req : Request)
    (log : List ServerExchange) :
    requestAfter req (log ++ rest) = requestAfter req log := by
  rw [requestAfter, List.foldl_append]
  change rest.foldl _ (requestAfter req log) = requestAfter req log
  induction rest with
  | nil => rfl
  | cons exchange rest ih =>
      rw [List.forall_mem_cons] at hrest
      rw [List.foldl_cons]
      split
      · next position current next => exact absurd rfl (hrest.1 position current)
      · exact ih hrest.2

theorem configAfter_append {rest : List ServerExchange}
    (hrest : ∀ exchange ∈ rest, exchange.op ≠ .loadConfig)
    (log : List ServerExchange) :
    configAfter (log ++ rest) = configAfter log := by
  rw [configAfter, List.foldl_append]
  change rest.foldl _ (configAfter log) = configAfter log
  induction rest with
  | nil => rfl
  | cons exchange rest ih =>
      rw [List.forall_mem_cons] at hrest
      rw [List.foldl_cons]
      split
      · exact absurd rfl hrest.1
      · exact ih hrest.2

theorem attempts_append (first second : List ServerExchange) :
    attempts (first ++ second) = attempts first + attempts second :=
  List.countP_append

section Append

variable {P : Platform} {req : Request} {log rest : List ServerExchange}
  {rule : CompiledRoutingRule} {u : String}

theorem RoutedTo.append (h : RoutedTo P req log rule)
    (hrest : ∀ exchange ∈ rest, exchange.op.NoRequestHook) :
    RoutedTo P req (log ++ rest) rule := by
  obtain ⟨router, hload, hrule⟩ := h
  refine ⟨router, List.mem_append_left _ hload, ?_⟩
  rwa [requestAfter_append hrest]

theorem Targets.append (h : Targets log rule u) :
    Targets (log ++ rest) rule u := by
  cases h with
  | direct hurl => exact .direct hurl
  | discovered hurl hservice hanswer hinst =>
      exact .discovered hurl hservice (List.mem_append_left _ hanswer) hinst

theorem AdmittedFor.append (h : AdmittedFor P req log rule u)
    (hrest : ∀ exchange ∈ rest, exchange.op.NoRequestHook) :
    AdmittedFor P req (log ++ rest) rule u :=
  ⟨h.routed.append hrest, h.target.append,
    List.mem_append_left _ h.admitted⟩

end Append

/-! ## Choosing the upstream -/

theorem indexOrPanic_returns {items : List ServiceInstance} {idx : Nat}
    {log : List ServerExchange} {inst : ServiceInstance}
    (h : (indexOrPanic items idx).Returns log inst) : inst ∈ items := by
  unfold indexOrPanic at h
  split at h
  · next found hfound =>
      obtain ⟨-, rfl⟩ := Program.returns_done.mp h
      exact List.mem_of_getElem? hfound
  · exact absurd h Program.not_returns_abort

theorem healthyInstances_returns {instances healthy : List ServiceInstance}
    {log : List ServerExchange}
    (h : (healthyInstances instances).Returns log healthy) :
    healthy.Sublist instances := by
  induction instances generalizing log healthy with
  | nil =>
      obtain ⟨-, rfl⟩ := Program.returns_done.mp h
      exact List.Sublist.refl _
  | cons inst rest ih =>
      obtain ⟨marked, tail, -, h⟩ := returns_perform_bind.mp h
      obtain ⟨first, others, last, -, hothers, h⟩ := Program.returns_bind.mp h
      obtain ⟨-, rfl⟩ := Program.returns_done.mp h
      split
      · exact (ih hothers).cons_cons inst
      · exact (ih hothers).cons inst

theorem weightedRoundRobinPick_returns {items : List ServiceInstance}
    {svcId : String} {log : List ServerExchange} {inst : ServiceInstance}
    (h : (weightedRoundRobinPick items svcId).Returns log inst) :
    inst ∈ items := by
  obtain ⟨c, tail, -, h⟩ := returns_perform_bind.mp h
  obtain ⟨first, idx, last, -, -, h⟩ := Program.returns_bind.mp h
  split at h
  · exact indexOrPanic_returns h
  · split at h
    · next found hfound =>
        obtain ⟨-, rfl⟩ := Program.returns_done.mp h
        exact List.mem_of_getLast? hfound
    · exact absurd h Program.not_returns_abort

/-- What is selected was among the instances offered. -/
theorem selectServiceInstance_returns {instances : List ServiceInstance}
    {svcId : String} {mode : InstanceSelection} {log : List ServerExchange}
    {inst : ServiceInstance}
    (h : (selectServiceInstance instances svcId mode).Returns log inst) :
    inst ∈ instances := by
  rw [selectServiceInstance_eq_bind] at h
  obtain ⟨first, healthy, rest, -, hhealthy, h⟩ := Program.returns_bind.mp h
  unfold selectAmong at h
  split at h
  · obtain ⟨asked, idx, last, -, -, h⟩ := Program.returns_bind.mp h
    exact (healthyInstances_returns hhealthy).subset (indexOrPanic_returns h)
  · cases mode with
    | first => exact indexOrPanic_returns h
    | roundRobin =>
        obtain ⟨c, tail, -, h⟩ := returns_perform_bind.mp h
        obtain ⟨asked, idx, last, -, -, h⟩ := Program.returns_bind.mp h
        exact indexOrPanic_returns h
    | random =>
        obtain ⟨asked, idx, last, -, -, h⟩ := Program.returns_bind.mp h
        exact indexOrPanic_returns h
    | weightedRoundRobin => exact weightedRoundRobinPick_returns h

/-! ## The parts of the handler keep the conditions -/

/-- `later` continues `log` with operations of one kind. -/
def Continues (kind : ServerOp → Prop) (log later : List ServerExchange) :
    Prop :=
  ∃ rest, later = log ++ rest ∧ ∀ exchange ∈ rest, kind exchange.op

theorem Continues.refl (kind : ServerOp → Prop) (log : List ServerExchange) :
    Continues kind log log :=
  ⟨[], (List.append_nil log).symm, List.forall_mem_nil _⟩

theorem Continues.step {kind : ServerOp → Prop} {log later : List ServerExchange}
    {exchange : ServerExchange} (hexchange : kind exchange.op)
    (h : Continues kind (log ++ [exchange]) later) :
    Continues kind log later := by
  obtain ⟨rest, rfl, hrest⟩ := h
  exact ⟨exchange :: rest, List.append_assoc .., 
    List.forall_mem_cons.mpr ⟨hexchange, hrest⟩⟩

/-- Operations that are permitted at any point. -/
def ServerOp.Free : ServerOp → Prop
  | .newUuid | .loadConfig | .isHealthy _ | .fetchAdd _ | .randomHash _ => True
  | .recordFailure _ => True
  | _ => False

/-- Operations between the route and the breaker. -/
def ServerOp.Choosing (op : ServerOp) : Prop := op.Quiet ∧ op.NoRequestHook

theorem ServerOp.Free.choosing {op : ServerOp} (h : op.Free) : op.Choosing := by
  cases op with
  | onRequest position req => exact h.elim
  | breakerAllow u => exact h.elim
  | breakerRecordSuccess u => exact h.elim
  | breakerRecordFailure u => exact h.elim
  | send req => exact h.elim
  | connectWebsocket url => exact h.elim
  | _ => exact ⟨trivial, fun _ _ h => by cases h⟩

/-- Remembers what a request has done and permits what may follow. -/
def requestMonitor (P : Platform) (req : Request) :
    Monitor ServerInterface (List ServerExchange) :=
  .history (Permitted P req)

theorem choosing_recordFailure (code : String) :
    ServerOp.Choosing (.recordFailure code) :=
  have hfree : ServerOp.Free (.recordFailure code) := trivial
  hfree.choosing

section Handler

variable {P : Platform} {req : Request}

theorem requestMonitor_after (log rest : List ServerExchange) :
    (requestMonitor P req).after log rest = log ++ rest :=
  Monitor.history_after log rest

theorem obeys_perform_bind {α : Type} {op : ServerOp}
    {f : op.Reply → ServerProgram α} {log : List ServerExchange}
    {post : List ServerExchange → α → Prop} :
    ((perform op).bind f).Obeys (requestMonitor P req) post log ↔
      Permitted P req log op ∧ ∀ reply : op.Reply,
        (f reply).Obeys (requestMonitor P req) post (log ++ [⟨op, reply⟩]) :=
  Iff.rfl

theorem permitted_of_free (log : List ServerExchange) (op : ServerOp)
    (h : op.Free) : Permitted P req log op := by
  cases op <;> first | exact trivial | exact h.elim

section Routed

variable {log : List ServerExchange} {rule : CompiledRoutingRule}

theorem upstreamBaseOf_obeys (hrouted : RoutedTo P req log rule)
    (path : String) :
    (upstreamBaseOf rule path).Obeys (requestMonitor P req)
      (fun later base => Continues ServerOp.Choosing log later ∧
        ∀ u, base = .ok u → Targets later rule u) log := by
  have hcounted (later : List ServerExchange) (code : String) (e : ProxyError)
      (h : Continues ServerOp.Choosing log
        (later ++ [⟨.recordFailure code, ()⟩])) :
      ((perform (.recordFailure code)).bind fun _ =>
        (.done (.error e) : ServerProgram (Except ProxyError String))).Obeys
        (requestMonitor P req) (fun later base =>
          Continues ServerOp.Choosing log later ∧
            ∀ u, base = .ok u → Targets later rule u) later :=
    obeys_perform_bind.mpr ⟨trivial, fun _ => ⟨h, fun u hu => by cases hu⟩⟩
  unfold upstreamBaseOf
  split
  · next url hurl =>
      refine ⟨.refl _ log, fun u hu => ?_⟩
      cases hu
      exact .direct hurl
  · next svcId hurl hservice =>
      refine obeys_perform_bind.mpr
        ⟨⟨rule, hrouted, hurl, hservice⟩, fun resolved => ?_⟩
      have hresolve : ServerOp.Choosing (.resolve svcId) :=
        ⟨trivial, fun _ _ h => by cases h⟩
      have hload : ServerOp.Choosing .loadConfig :=
        ⟨trivial, fun _ _ h => by cases h⟩
      cases resolved with
      | error e =>
          apply hcounted
          exact .step hresolve (.step (choosing_recordFailure _) (.refl _ _))
      | ok instances =>
          dsimp only
          split
          · apply hcounted
            exact .step hresolve (.step (choosing_recordFailure _) (.refl _ _))
          · refine obeys_perform_bind.mpr ⟨trivial, fun config => ?_⟩
            have hselecting : ServerOp.Selecting ServerOp.Free svcId :=
              ⟨fun _ => trivial, trivial, fun _ => trivial⟩
            have hasks := selectServiceInstance_onlyAsks hselecting instances
              config.server.instanceSelection
            rw [Program.bind_eq, Program.obeys_bind]
            refine Program.obeys_of_onlyAsks hasks permitted_of_free
              fun selected inst hselected => ?_
            rw [requestMonitor_after]
            refine ⟨.step hresolve (.step hload ⟨selected, rfl, ?_⟩), ?_⟩
            · exact fun exchange hmem =>
                (hasks.of_runs hselected exchange hmem).choosing
            · intro u hu
              cases hu
              refine .discovered hurl hservice ?_
                (selectServiceInstance_returns hselected)
              simp
  · apply hcounted
    exact .step (choosing_recordFailure _) (.refl _ _)

end Routed

end Handler

end ServiceRouter
