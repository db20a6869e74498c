import ServiceRouter.Server.HandlerExits

/-!
# How failures are counted

The counters a run of the handler changes.  Every exit with an error counts it
once, except those of a failed plugin hook, which count nothing.
-/

namespace ServiceRouter

open Foundation

/-! ## The counters after a run -/

def ProxyMetrics.record (metrics : ProxyMetrics) : ServerOp → ProxyMetrics
  | .recordRouteHit ruleId => metrics.recordRouteHit ruleId
  | .recordFailure reasonCode => metrics.recordFailure reasonCode
  | _ => metrics

def ProxyMetrics.after (metrics : ProxyMetrics) (log : List ServerExchange) :
    ProxyMetrics :=
  log.foldl (fun metrics exchange => metrics.record exchange.op) metrics

def routeHitOf (exchange : ServerExchange) : Option String :=
  match exchange.op with
  | .recordRouteHit ruleId => some ruleId
  | _ => none

def failureOf (exchange : ServerExchange) : Option String :=
  match exchange.op with
  | .recordFailure reasonCode => some reasonCode
  | _ => none

theorem routeHits_after (metrics : ProxyMetrics)
    (log : List ServerExchange) :
    (metrics.after log).routeHits =
      (log.filterMap routeHitOf).foldl (Counters.increment 64)
        metrics.routeHits := by
  induction log generalizing metrics with
  | nil => rfl
  | cons exchange log ih =>
      obtain ⟨op, reply⟩ := exchange
      rw [ProxyMetrics.after, List.foldl_cons]
      cases op <;> exact ih _

theorem failureReasons_after (metrics : ProxyMetrics)
    (log : List ServerExchange) :
    (metrics.after log).failureReasons =
      (log.filterMap failureOf).foldl (Counters.increment 64)
        metrics.failureReasons := by
  induction log generalizing metrics with
  | nil => rfl
  | cons exchange log ih =>
      obtain ⟨op, reply⟩ := exchange
      rw [ProxyMetrics.after, List.foldl_cons]
      cases op <;> exact ih _

/-! ## Parts that count nothing -/

def ServerOp.Uncounted : ServerOp → Prop
  | .recordRouteHit _ | .recordFailure _ => False
  | _ => True

theorem routeHitOf_of_uncounted {exchange : ServerExchange}
    (h : exchange.op.Uncounted) : routeHitOf exchange = none := by
  obtain ⟨op, reply⟩ := exchange
  cases op <;> first | rfl | exact h.elim

theorem failureOf_of_uncounted {exchange : ServerExchange}
    (h : exchange.op.Uncounted) : failureOf exchange = none := by
  obtain ⟨op, reply⟩ := exchange
  cases op <;> first | rfl | exact h.elim

/-- What a log counts: the rules it hit and the codes of its failures. -/
def Counts (log : List ServerExchange) (hits failures : List String) : Prop :=
  log.filterMap routeHitOf = hits ∧ log.filterMap failureOf = failures

theorem Counts.append {first second : List ServerExchange}
    {hits hits' failures failures' : List String}
    (hfirst : Counts first hits failures)
    (hsecond : Counts second hits' failures') :
    Counts (first ++ second) (hits ++ hits') (failures ++ failures') := by
  unfold Counts
  rw [List.filterMap_append, List.filterMap_append, hfirst.1, hfirst.2,
    hsecond.1, hsecond.2]
  exact ⟨rfl, rfl⟩

theorem counts_of_uncounted {log : List ServerExchange}
    (h : ∀ exchange ∈ log, exchange.op.Uncounted) : Counts log [] [] := by
  constructor
  · apply List.filterMap_eq_nil_iff.mpr
    intro exchange hmem
    apply routeHitOf_of_uncounted (h exchange hmem)
  · apply List.filterMap_eq_nil_iff.mpr
    intro exchange hmem
    apply failureOf_of_uncounted (h exchange hmem)

theorem counts_of_returns {α : Type} {p : ServerProgram α}
    (hp : p.OnlyAsks ServerOp.Uncounted) {log : List ServerExchange} {a : α}
    (h : p.Returns log a) : Counts log [] [] :=
  counts_of_uncounted (hp.of_runs h)

theorem RequestHooks.counts {plugins : List (String × Nat)} {req : Request}
    {log : List ServerExchange} {result : Except String RequestAction}
    (h : RequestHooks plugins req log result) : Counts log [] [] :=
  counts_of_uncounted (h.asks fun _ _ => trivial)

theorem ResponseHooks.counts {plugins : List (String × Nat)}
    {resp : Response} {log : List ServerExchange}
    {result : Except String Response}
    (h : ResponseHooks plugins resp log result) : Counts log [] [] :=
  counts_of_uncounted (h.asks fun _ _ => trivial)

theorem selecting_uncounted (svcId : String) :
    ServerOp.Selecting ServerOp.Uncounted svcId :=
  ⟨fun _ => trivial, trivial, fun _ => trivial⟩

theorem forwarding_uncounted : ServerOp.Forwarding ServerOp.Uncounted :=
  ⟨trivial, fun _ => trivial, fun _ => trivial, fun _ => trivial,
    fun _ => trivial⟩

/-! ## Failed hooks -/

/-- A plugin hook that returned an error or panicked. -/
def failedHook (exchange : ServerExchange) : Bool :=
  match exchange with
  | ⟨.onRequest _ _, .error _⟩ => true
  | ⟨.onRequest _ _, .panicked⟩ => true
  | ⟨.onResponse _ _, .error _⟩ => true
  | ⟨.onResponse _ _, .panicked⟩ => true
  | _ => false

def ServerOp.NoHook : ServerOp → Prop
  | .onRequest _ _ | .onResponse _ _ => False
  | _ => True

theorem any_failedHook_of_returns {α : Type} {p : ServerProgram α}
    (hp : p.OnlyAsks ServerOp.NoHook) {log : List ServerExchange} {a : α}
    (h : p.Returns log a) : log.any failedHook = false := by
  rw [List.any_eq_false]
  intro exchange hmem hfailed
  have hnot := hp.of_runs h exchange hmem
  obtain ⟨op, reply⟩ := exchange
  cases op <;> first | exact hnot | simp [failedHook] at hfailed

theorem RequestHooks.any_failedHook {plugins : List (String × Nat)}
    {req : Request} {log : List ServerExchange}
    {result : Except String RequestAction}
    (h : RequestHooks plugins req log result) :
    log.any failedHook = !result.isOk := by
  induction h with
  | done req => rfl
  | continue_ _ ih => exact ih
  | respond name position rest req resp => rfl
  | error name position rest req reason => rfl
  | panicked name position rest req => rfl

theorem ResponseHooks.any_failedHook {plugins : List (String × Nat)}
    {resp : Response} {log : List ServerExchange}
    {result : Except String Response}
    (h : ResponseHooks plugins resp log result) :
    log.any failedHook = !result.isOk := by
  induction h with
  | done resp => rfl
  | next _ ih => exact ih
  | error name position rest resp reason => rfl
  | panicked name position rest resp => rfl

theorem forwarding_noHook : ServerOp.Forwarding ServerOp.NoHook :=
  ⟨trivial, fun _ => trivial, fun _ => trivial, fun _ => trivial,
    fun _ => trivial⟩

theorem upstreamBaseOf_noHook (rule : CompiledRoutingRule) (path : String) :
    (upstreamBaseOf rule path).OnlyAsks ServerOp.NoHook :=
  upstreamBaseOf_onlyAsks
    (fun _ => ⟨fun _ => trivial, trivial, fun _ => trivial⟩)
    (fun _ => trivial) trivial (fun _ => trivial) rule path

/-! ## Exits -/

def CountedOnce {α : Type} : Except ProxyError α → List String → Prop
  | .ok _, failures => failures = []
  | .error _, failures => ∃ code, failures = [code]

/-- Where a hook failed the result is an error that is not counted. -/
def Accounted (result : Except ProxyError Response) (failures : List String) :
    Bool → Prop
  | true => failures = [] ∧ ∃ e, result = .error e
  | false => CountedOnce result failures

theorem counts_upstreamBaseOf {rule : CompiledRoutingRule} {path : String}
    {log : List ServerExchange} {base : Except ProxyError String}
    (h : (upstreamBaseOf rule path).Returns log base) :
    ∃ failures, Counts log [] failures ∧ CountedOnce base failures := by
  unfold upstreamBaseOf at h
  split at h
  · obtain ⟨rfl, rfl⟩ := Program.returns_done.mp h
    exact ⟨[], ⟨rfl, rfl⟩, rfl⟩
  · obtain ⟨resolved, rest, rfl, hnext⟩ := returns_perform_bind.mp h
    cases resolved with
    | error e =>
        obtain ⟨counted, tail, rfl, hdone⟩ := returns_perform_bind.mp hnext
        obtain ⟨rfl, rfl⟩ := Program.returns_done.mp hdone
        exact ⟨_, ⟨rfl, rfl⟩, _, rfl⟩
    | ok instances =>
        simp only at hnext
        split at hnext
        · obtain ⟨counted, tail, rfl, hdone⟩ :=
            returns_perform_bind.mp hnext
          obtain ⟨rfl, rfl⟩ := Program.returns_done.mp hdone
          exact ⟨_, ⟨rfl, rfl⟩, _, rfl⟩
        · obtain ⟨config, tail, rfl, hselect⟩ :=
            returns_perform_bind.mp hnext
          obtain ⟨picked, inst, last, rfl, hpick, hdone⟩ :=
            Program.returns_bind.mp hselect
          obtain ⟨rfl, rfl⟩ := Program.returns_done.mp hdone
          rw [List.append_nil]
          have hcounts := counts_of_returns (selectServiceInstance_onlyAsks
            (selecting_uncounted _) _ _) hpick
          exact ⟨[], hcounts, rfl⟩
  · obtain ⟨counted, tail, rfl, hdone⟩ := returns_perform_bind.mp h
    obtain ⟨rfl, rfl⟩ := Program.returns_done.mp hdone
    exact ⟨_, ⟨rfl, rfl⟩, _, rfl⟩

theorem counts_forward {P : Platform} {req : Request}
    {rule : CompiledRoutingRule} {u rewrittenPath requestId : String}
    {log : List ServerExchange} {result : Except ProxyError Response}
    (h : (forward P req rule u rewrittenPath requestId).Returns log result) :
    Counts log [] [] ∧ log.any failedHook = false :=
  ⟨counts_of_returns (forward_onlyAsks forwarding_uncounted ..) h,
    any_failedHook_of_returns (forward_onlyAsks forwarding_noHook ..) h⟩

theorem RoutedRun.accounted {P : Platform} {plugins : List String}
    {path requestId : String} {req : Request} {rule : CompiledRoutingRule}
    {log : List ServerExchange} {result : Except ProxyError Response}
    (h : RoutedRun P plugins path req rule requestId log result) :
    ∃ failures, Counts log [rule.id] failures ∧
      Accounted result failures (log.any failedHook) := by
  have hhit : Counts [⟨.recordRouteHit rule.id, ()⟩] [rule.id] [] := ⟨rfl, rfl⟩
  have hallowed (u : String) (answer : Bool) :
      Counts [⟨.breakerAllow u, answer⟩] [] [] := ⟨rfl, rfl⟩
  have hfailure (code : String) :
      Counts [⟨.recordFailure code, ()⟩] [] [code] := ⟨rfl, rfl⟩
  have hquiet {baseLog : List ServerExchange}
      {base : Except ProxyError String}
      (hbase : (upstreamBaseOf rule path).Returns baseLog base) :
      baseLog.any failedHook = false :=
    any_failedHook_of_returns (upstreamBaseOf_noHook rule path) hbase
  cases h with
  | noUpstream hbase =>
      obtain ⟨failures, hcounts, honce⟩ := counts_upstreamBaseOf hbase
      refine ⟨failures, hhit.append hcounts, ?_⟩
      rw [List.any_cons, hquiet hbase]
      exact honce
  | breakerOpen hbase =>
      obtain ⟨failures, hcounts, rfl⟩ := counts_upstreamBaseOf hbase
      refine ⟨_, hhit.append (hcounts.append
        ((hallowed _ false).append (hfailure _))), ?_⟩
      rw [List.any_cons, List.any_append, hquiet hbase]
      exact ⟨_, rfl⟩
  | forwardFailed hbase hforward =>
      obtain ⟨failures, hcounts, rfl⟩ := counts_upstreamBaseOf hbase
      obtain ⟨hforwarded, hnone⟩ := counts_forward hforward
      refine ⟨_, hhit.append (hcounts.append ((hallowed _ true).append
        (hforwarded.append (hfailure _)))), ?_⟩
      rw [List.any_cons, List.any_append, List.any_cons, List.any_append,
        hquiet hbase, hnone]
      exact ⟨_, rfl⟩
  | hookFailed hbase hforward hhooks =>
      obtain ⟨failures, hcounts, rfl⟩ := counts_upstreamBaseOf hbase
      obtain ⟨hforwarded, hnone⟩ := counts_forward hforward
      refine ⟨_, hhit.append (hcounts.append ((hallowed _ true).append
        (hforwarded.append hhooks.counts))), ?_⟩
      rw [List.any_cons, List.any_append, List.any_cons, List.any_append,
        hquiet hbase, hnone, hhooks.any_failedHook]
      exact ⟨rfl, _, rfl⟩
  | finished hbase hforward hhooks =>
      obtain ⟨failures, hcounts, rfl⟩ := counts_upstreamBaseOf hbase
      obtain ⟨hforwarded, hnone⟩ := counts_forward hforward
      refine ⟨_, hhit.append (hcounts.append ((hallowed _ true).append
        (hforwarded.append hhooks.counts))), ?_⟩
      rw [List.any_cons, List.any_append, List.any_cons, List.any_append,
        hquiet hbase, hnone, hhooks.any_failedHook]
      exact rfl

/-! ## Whether a rule was resolved -/

/-- The first router loaded resolves the path and method with the headers the
plugins left. -/
def ruleResolved (P : Platform) (path method : String) :
    Request → List ServerExchange → Bool
  | _, [] => false
  | req, exchange :: log =>
      match exchange with
      | ⟨.onRequest _ _, .ok (.continue_ next)⟩ =>
          ruleResolved P path method next log
      | ⟨.loadRouter, router⟩ =>
          (RouterSnapshot.resolvedRule P router path method
            req.headers).isSome
      | _ => ruleResolved P path method req log

theorem requestIdOf_returns {P : Platform} {req : Request}
    {log : List ServerExchange} {requestId : String}
    (h : (requestIdOf P req).Returns log requestId) :
    log = [] ∨ ∃ id, log = [⟨.newUuid, id⟩] := by
  unfold requestIdOf at h
  split at h
  · exact .inl (Program.returns_done.mp h).1
  · exact .inr ⟨requestId, returns_perform.mp h⟩

section Resolved

variable {P : Platform} {path method : String} {req : Request}

theorem ruleResolved_of_requestId {req' : Request}
    {idLog log : List ServerExchange} {requestId : String}
    (h : (requestIdOf P req').Returns idLog requestId) :
    ruleResolved P path method req (idLog ++ log) =
      ruleResolved P path method req log := by
  rcases requestIdOf_returns h with rfl | ⟨id, rfl⟩ <;> rfl

theorem RequestHooks.ruleResolved_continue
    {plugins : List (String × Nat)} {hookLog log : List ServerExchange}
    {routed : Request}
    (h : RequestHooks plugins req hookLog (.ok (.continue_ routed))) :
    ruleResolved P path method req (hookLog ++ log) =
      ruleResolved P path method routed log := by
  generalize hresult : (Except.ok (.continue_ routed) :
    Except String RequestAction) = result at h
  induction h with
  | done req =>
      cases hresult
      rfl
  | continue_ _ ih => exact ih hresult
  | respond name position rest req resp => cases hresult
  | error name position rest req reason => cases hresult
  | panicked name position rest req => cases hresult

theorem RequestHooks.ruleResolved_left
    {plugins : List (String × Nat)} {hookLog : List ServerExchange}
    {result : Except String RequestAction}
    (h : RequestHooks plugins req hookLog result) :
    ruleResolved P path method req hookLog = false := by
  induction h with
  | done req => rfl
  | continue_ _ ih => exact ih
  | respond name position rest req resp => rfl
  | error name position rest req reason => rfl
  | panicked name position rest req => rfl

end Resolved

/-- What a run counts, and whether it resolved a rule. -/
theorem HandlerRun.accounted {P : Platform} {plugins : List String}
    {req : Request} {log : List ServerExchange}
    {result : Except ProxyError Response}
    (h : HandlerRun P plugins req log result) :
    ∃ hits failures, Counts log hits failures ∧
      Accounted result failures (log.any failedHook) ∧
      (if ruleResolved P req.path req.method req log then ∃ id, hits = [id]
        else hits = []) := by
  have hid {idLog : List ServerExchange} {requestId : String}
      (hreturns : (requestIdOf P req).Returns idLog requestId) :
      Counts idLog [] [] ∧ idLog.any failedHook = false :=
    ⟨counts_of_returns (requestIdOf_onlyAsks trivial P req) hreturns,
      any_failedHook_of_returns (requestIdOf_onlyAsks trivial P req) hreturns⟩
  have hload (router : RouterSnapshot) :
      Counts [⟨.loadRouter, router⟩] [] [] := ⟨rfl, rfl⟩
  cases h with
  | hookFailed hreturns hhooks =>
      refine ⟨[], [], (hid hreturns).1.append hhooks.counts, ?_, ?_⟩
      · rw [List.any_append, (hid hreturns).2, hhooks.any_failedHook]
        exact ⟨rfl, _, rfl⟩
      · rw [ruleResolved_of_requestId hreturns, hhooks.ruleResolved_left]
        rfl
  | shortCircuited hreturns hhooks =>
      refine ⟨[], [], (hid hreturns).1.append hhooks.counts, ?_, ?_⟩
      · rw [List.any_append, (hid hreturns).2, hhooks.any_failedHook]
        exact rfl
      · rw [ruleResolved_of_requestId hreturns, hhooks.ruleResolved_left]
        rfl
  | unrouted hreturns hhooks hrule =>
      have hcounted : Counts [⟨.recordFailure "no_matching_route", ()⟩] []
          ["no_matching_route"] := ⟨rfl, rfl⟩
      refine ⟨[], _, (hid hreturns).1.append (hhooks.counts.append
        ((hload _).append hcounted)), ?_, ?_⟩
      · rw [List.any_append, List.any_append, (hid hreturns).2,
          hhooks.any_failedHook]
        exact ⟨_, rfl⟩
      · rw [ruleResolved_of_requestId hreturns, hhooks.ruleResolved_continue]
        simp [ruleResolved, hrule]
  | routed hreturns hhooks hrule hrun =>
      obtain ⟨failures, hcounts, haccounted⟩ := hrun.accounted
      refine ⟨[_], failures, (hid hreturns).1.append (hhooks.counts.append
        ((hload _).append hcounts)), ?_, ?_⟩
      · rw [List.any_append, List.any_append, (hid hreturns).2,
          hhooks.any_failedHook, List.any_cons]
        exact haccounted
      · rw [ruleResolved_of_requestId hreturns, hhooks.ruleResolved_continue]
        simp [ruleResolved, hrule]

/-! ## The conservation law -/

/-- No counter the run increments is at its maximum. -/
def ProxyMetrics.CountersFit (metrics : ProxyMetrics)
    (log : List ServerExchange) : Prop :=
  (∀ ruleId ∈ log.filterMap routeHitOf,
      Counters.Fits 64 metrics.routeHits ruleId) ∧
    ∀ code ∈ log.filterMap failureOf,
      Counters.Fits 64 metrics.failureReasons code

/-- One run counts its error once and its resolved rule once exactly if no
plugin hook fails and no counter wraps. -/
theorem failures_counted_once_iff {P : Platform} {plugins : List String}
    {req : Request} {log : List ServerExchange}
    {result : Except ProxyError Response} (metrics : ProxyMetrics)
    (h : (proxyHandler P plugins req).Returns log result) :
    (Counters.total (metrics.after log).failureReasons =
        Counters.total metrics.failureReasons +
          (if result.isOk then 0 else 1) ∧
      Counters.total (metrics.after log).routeHits =
        Counters.total metrics.routeHits +
          (if ruleResolved P req.path req.method req log then 1 else 0)) ↔
      log.any failedHook = false ∧ metrics.CountersFit log := by
  obtain ⟨hits, failures, ⟨hhits, hfailures⟩, haccounted, hresolved⟩ :=
    (proxyHandler_returns h).accounted
  rw [routeHits_after, failureReasons_after, ProxyMetrics.CountersFit, hhits,
    hfailures]
  have hroute : Counters.total
      (hits.foldl (Counters.increment 64) metrics.routeHits) =
        Counters.total metrics.routeHits +
          (if ruleResolved P req.path req.method req log then 1 else 0) ↔
      ∀ ruleId ∈ hits, Counters.Fits 64 metrics.routeHits ruleId := by
    split at hresolved
    · next hrule =>
        obtain ⟨id, rfl⟩ := hresolved
        simp [hrule, Counters.total_increment_iff]
    · next hrule =>
        subst hresolved
        simp [hrule]
  rw [hroute]
  cases hhook : log.any failedHook with
  | true =>
      rw [hhook] at haccounted
      obtain ⟨rfl, e, rfl⟩ := haccounted
      simp [Except.isOk, Except.toBool]
  | false =>
      rw [hhook] at haccounted
      cases result with
      | ok resp =>
          cases haccounted
          simp [Except.isOk, Except.toBool, and_comm]
      | error e =>
          obtain ⟨code, rfl⟩ := haccounted
          simp [Except.isOk, Except.toBool, Counters.total_increment_iff,
            and_comm]

/-! ## A rule without a target, and a plugin that fails -/

def untargetedRequest : Request where
  method := "GET"
  path := "/"

def untargetedRule : CompiledRoutingRule where
  id := "a"
  compiledPath := .exact "/"
  methods := none
  headers := none
  serviceId := none
  upstreamUrl := none
  stripPrefix := none
  responseHeaders := none
  priority := 100

def untargetedLog : List ServerExchange :=
  [⟨.newUuid, "id"⟩, ⟨.loadRouter, ⟨[untargetedRule]⟩⟩,
    ⟨.recordRouteHit "a", ()⟩, ⟨.recordFailure "no_instances", ()⟩]

theorem untargeted_returns :
    (proxyHandler .plain [] untargetedRequest).Returns untargetedLog
      (.error (.noInstances "/")) :=
  .step _ (.step _ (.step _ (.step _ (.refl _))))

def failedHookLog : List ServerExchange :=
  [⟨.newUuid, "id"⟩, ⟨.onRequest 0 untargetedRequest, .error "denied"⟩]

theorem failedHook_returns :
    (proxyHandler .plain ["auth"] untargetedRequest).Returns failedHookLog
      (.error (.pluginError "denied")) :=
  .step _ (.step _ (.refl _))

theorem failures_counted_once_untargeted :
    Counters.total (ProxyMetrics.after {} untargetedLog).failureReasons = 1 ∧
      Counters.total (ProxyMetrics.after {} untargetedLog).routeHits = 1 :=
  (failures_counted_once_iff {} untargeted_returns).mpr
    ⟨rfl, by simp [ProxyMetrics.CountersFit, Counters.Fits]⟩

/-- The request ends with an error and nothing is counted. -/
theorem failed_hook_not_counted :
    (proxyHandler .plain ["auth"] untargetedRequest).Returns failedHookLog
        (.error (.pluginError "denied")) ∧
      Counters.total (ProxyMetrics.after {} failedHookLog).failureReasons ≠
        Counters.total (({} : ProxyMetrics).failureReasons) + 1 :=
  ⟨failedHook_returns, by decide⟩

end ServiceRouter
