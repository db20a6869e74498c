import ServiceRouter.Server.HandlerExits

/-!
# What a finished request has done

The parts of the handler before and after forwarding neither contact an
upstream nor touch the breaker.  On the plain HTTP branch every failed attempt
is reported to the breaker before anything else happens.
-/

namespace ServiceRouter

open Foundation

/-- Operations that neither contact an upstream nor touch the breaker. -/
def ServerOp.Quiet : ServerOp → Prop
  | .breakerAllow _ | .breakerRecordSuccess _ | .breakerRecordFailure _ => False
  | .send _ | .connectWebsocket _ => False
  | _ => True

/-- An HTTP attempt that got no complete response from the upstream. -/
def failedAttempt (exchange : ServerExchange) : Bool :=
  match exchange with
  | ⟨.send _, .error _⟩ => true
  | ⟨.send _, .ok upstream⟩ =>
      match upstream.body with
      | .error _ => true
      | .ok _ => false
  | _ => false

def failedUpgrade (exchange : ServerExchange) : Bool :=
  match exchange with
  | ⟨.connectWebsocket _, .error _⟩ => true
  | _ => false

def failureReport (u : String) : ServerExchange :=
  ⟨.breakerRecordFailure u, ()⟩

def successReport (u : String) : ServerExchange :=
  ⟨.breakerRecordSuccess u, ()⟩

def admission (u : String) : ServerExchange := ⟨.breakerAllow u, true⟩

theorem not_failedAttempt_of_quiet {exchange : ServerExchange}
    (h : exchange.op.Quiet) : failedAttempt exchange = false := by
  obtain ⟨op, reply⟩ := exchange
  cases op <;> first | rfl | exact h.elim

/-! ## The quiet parts -/

theorem requestIdOf_quiet (P : Platform) (req : Request) :
    (requestIdOf P req).OnlyAsks ServerOp.Quiet :=
  requestIdOf_onlyAsks trivial P req

theorem upstreamBaseOf_quiet (rule : CompiledRoutingRule) (path : String) :
    (upstreamBaseOf rule path).OnlyAsks ServerOp.Quiet :=
  upstreamBaseOf_onlyAsks
    (fun _ => ⟨fun _ => trivial, trivial, fun _ => trivial⟩)
    (fun _ => trivial) trivial (fun _ => trivial) rule path

/-! ## Reports -/

/-- Every failed attempt is directly followed by its report. -/
def Reported (u : String) : List ServerExchange → Prop
  | [] => True
  | exchange :: rest =>
      (failedAttempt exchange = true →
        ∃ tail, rest = failureReport u :: tail) ∧ Reported u rest

theorem reported_of_quiet {u : String} {log : List ServerExchange}
    (h : ∀ exchange ∈ log, failedAttempt exchange = false) :
    Reported u log := by
  induction log with
  | nil => trivial
  | cons exchange log ih =>
      refine ⟨fun hfailed => ?_, ih fun e he => h e (List.mem_cons_of_mem _ he)⟩
      simp [h exchange List.mem_cons_self] at hfailed

theorem Reported.cons {u : String} {exchange : ServerExchange}
    {rest : List ServerExchange} (hexchange : failedAttempt exchange = false)
    (hrest : Reported u rest) : Reported u (exchange :: rest) :=
  ⟨fun hfailed => by simp [hexchange] at hfailed, hrest⟩

theorem Reported.append {u : String} {first second : List ServerExchange}
    (hfirst : Reported u first) (hsecond : Reported u second) :
    Reported u (first ++ second) := by
  induction first with
  | nil => exact hsecond
  | cons exchange first ih =>
      refine ⟨fun hfailed => ?_, ih hfirst.2⟩
      obtain ⟨tail, rfl⟩ := hfirst.1 hfailed
      exact ⟨tail ++ second, rfl⟩

theorem Reported.of_append {u : String} {first second : List ServerExchange}
    (h : Reported u (first ++ second)) : Reported u second := by
  induction first with
  | nil => exact h
  | cons exchange first ih => exact ih h.2

/-! ## The forwarding branches -/

/-- One attempt is at most one exchange, and it fails if that exchange does. -/
theorem proxyHttp_returns {P : Platform} {req : Request}
    {upstreamBase rewrittenPath requestId : String} {extra : ExtraHeaders}
    {log : List ServerExchange} {result : Except ProxyError Response}
    (h : (proxyHttp P req upstreamBase rewrittenPath extra requestId).Returns
      log result) :
    (log = [] ∧ ∃ e, result = .error e) ∨
      ∃ exchange, log = [exchange] ∧
        (failedAttempt exchange = true → ∃ e, result = .error e) := by
  unfold proxyHttp at h
  cases hbody : req.body with
  | error reason =>
      simp only [hbody, Program.pure_eq, Program.returns_done] at h
      exact .inl ⟨h.1, _, h.2.symm⟩
  | ok body =>
      cases hid : P.headerValue requestId with
      | none =>
          simp only [hbody, hid, Program.pure_eq, Program.returns_done] at h
          exact .inl ⟨h.1, _, h.2.symm⟩
      | some id =>
          simp only [hbody, hid, Program.bind_eq, returns_perform_bind] at h
          obtain ⟨reply, rest, rfl, h⟩ := h
          refine .inr ?_
          cases reply with
          | error reason =>
              simp only [Program.pure_eq, Program.returns_done] at h
              obtain ⟨rfl, rfl⟩ := h
              exact ⟨_, rfl, fun _ => ⟨_, rfl⟩⟩
          | ok upstream =>
              cases hbytes : upstream.body with
              | error reason =>
                  simp only [hbytes, Program.pure_eq,
                    Program.returns_done] at h
                  obtain ⟨rfl, rfl⟩ := h
                  exact ⟨_, rfl, fun _ => ⟨_, rfl⟩⟩
              | ok bytes =>
                  simp only [hbytes, Program.pure_eq,
                    Program.returns_done] at h
                  obtain ⟨rfl, rfl⟩ := h
                  refine ⟨_, rfl, fun hfailed => ?_⟩
                  simp [failedAttempt, hbytes] at hfailed

theorem reportOutcome_returns {u : String}
    {result : Except ProxyError Response} {log : List ServerExchange}
    {reply : Unit} (h : (reportOutcome u result).Returns log reply) :
    (∃ resp, result = .ok resp ∧ log = [successReport u]) ∨
      ∃ e, result = .error e ∧ log = [failureReport u] := by
  cases result with
  | ok resp => exact .inl ⟨resp, rfl, returns_perform.mp h⟩
  | error e => exact .inr ⟨e, rfl, returns_perform.mp h⟩

private theorem reported_attempt {P : Platform} {req : Request}
    {u rewrittenPath requestId : String} {extra : ExtraHeaders}
    {log reportLog : List ServerExchange}
    {result : Except ProxyError Response} {reply : Unit}
    (h : (proxyHttp P req u rewrittenPath extra requestId).Returns log result)
    (hreport : (reportOutcome u result).Returns reportLog reply) :
    Reported u (log ++ reportLog) := by
  rcases reportOutcome_returns hreport with
    ⟨resp, rfl, rfl⟩ | ⟨e, rfl, rfl⟩
  · rcases proxyHttp_returns h with ⟨rfl, -⟩ | ⟨exchange, rfl, hfailed⟩
    · exact reported_of_quiet fun _ hmem => by
        rw [List.mem_singleton.mp hmem]
        rfl
    · refine ⟨fun hfail => ?_, ?_⟩
      · obtain ⟨e, he⟩ := hfailed hfail
        cases he
      · exact reported_of_quiet fun _ hmem => by
          rw [List.mem_singleton.mp hmem]
          rfl
  · have hsingle : Reported u [failureReport u] :=
      reported_of_quiet fun _ hmem => by
        rw [List.mem_singleton.mp hmem]
        rfl
    rcases proxyHttp_returns h with ⟨rfl, -⟩ | ⟨exchange, rfl, -⟩
    · exact hsingle
    · exact ⟨fun _ => ⟨[], rfl⟩, hsingle⟩

private theorem attemptWithRetries_reported {P : Platform} {req : Request}
    {u rewrittenPath requestId : String} {extra : ExtraHeaders}
    {retries : Nat} {log : List ServerExchange}
    {result : Except ProxyError Response}
    (h : (attemptWithRetries P req u rewrittenPath extra requestId
      retries).Returns log result) : Reported u log := by
  induction retries generalizing log with
  | zero =>
      obtain ⟨first, attempt, rest, rfl, hfirst, h⟩ :=
        Program.returns_bind.mp h
      obtain ⟨report, reply, last, rfl, hreport, h⟩ :=
        Program.returns_bind.mp h
      obtain ⟨rfl, -⟩ := Program.returns_done.mp h
      rw [List.append_nil]
      exact reported_attempt hfirst hreport
  | succ retries ih =>
      obtain ⟨first, attempt, rest, rfl, hfirst, h⟩ :=
        Program.returns_bind.mp h
      obtain ⟨report, reply, last, rfl, hreport, h⟩ :=
        Program.returns_bind.mp h
      rw [← List.append_assoc]
      refine (reported_attempt hfirst hreport).append ?_
      cases attempt with
      | ok resp =>
          obtain ⟨rfl, -⟩ := Program.returns_done.mp h
          trivial
      | error e => exact ih h

theorem proxyWithRetry_reported {P : Platform} {req : Request}
    {u rewrittenPath requestId : String} {extra : ExtraHeaders}
    {maxRetries : Nat} {log : List ServerExchange}
    {result : Except ProxyError Response}
    (h : (proxyWithRetry P req u rewrittenPath extra requestId
      maxRetries).Returns log result) : Reported u log := by
  unfold proxyWithRetry at h
  split at h
  · obtain ⟨first, attempt, rest, rfl, hfirst, h⟩ :=
      Program.returns_bind.mp h
    obtain ⟨report, reply, last, rfl, hreport, h⟩ :=
      Program.returns_bind.mp h
    obtain ⟨rfl, -⟩ := Program.returns_done.mp h
    rw [List.append_nil]
    exact reported_attempt hfirst hreport
  · split at h
    · obtain ⟨rfl, -⟩ := Program.returns_done.mp h
      trivial
    · exact attemptWithRetries_reported h

theorem proxyWebsocket_reported {req : Request}
    {u rewrittenPath : String} {log : List ServerExchange}
    {result : Except ProxyError Response}
    (h : (proxyWebsocket req u rewrittenPath).Returns log result) :
    Reported u log := by
  obtain ⟨reply, rest, rfl, hrest⟩ := returns_perform_bind.mp h
  refine .cons rfl ?_
  cases reply with
  | error reason =>
      obtain ⟨rfl, -⟩ := Program.returns_done.mp hrest
      trivial
  | ok _ =>
      obtain ⟨rfl, -⟩ := Program.returns_done.mp hrest
      trivial

theorem forward_reported {P : Platform} {req : Request}
    {rule : CompiledRoutingRule} {u rewrittenPath requestId : String}
    {log : List ServerExchange} {result : Except ProxyError Response}
    (h : (forward P req rule u rewrittenPath requestId).Returns log result) :
    Reported u log := by
  unfold forward at h
  split at h
  · exact proxyWebsocket_reported h
  · obtain ⟨config, rest, rfl, hrest⟩ := returns_perform_bind.mp h
    exact .cons rfl (proxyWithRetry_reported hrest)

/-! ## The breaker is asked once -/

def ServerOp.NotAllow (op : ServerOp) : Prop := ∀ u, op ≠ .breakerAllow u

theorem forwarding_notAllow : ServerOp.Forwarding ServerOp.NotAllow := by
  constructor <;> intros <;> intro u h <;> cases h

theorem not_admission_of_quiet {log : List ServerExchange}
    (h : ∀ exchange ∈ log, exchange.op.Quiet) (u : String) :
    admission u ∉ log :=
  fun hmem => h _ hmem

/-- What happens before an admission has nothing to report. -/
theorem Reported.behind {u : String} {first second : List ServerExchange}
    (hfirst : ∀ exchange ∈ first, exchange.op.Quiet)
    (hsecond : admission u ∈ second → Reported u second)
    (hadmitted : admission u ∈ first ++ second) :
    Reported u (first ++ second) := by
  have hmem : admission u ∈ second :=
    (List.mem_append.mp hadmitted).resolve_left
      (not_admission_of_quiet hfirst u)
  apply Reported.append
  · apply reported_of_quiet
    intro exchange hexchange
    apply not_failedAttempt_of_quiet (hfirst exchange hexchange)
  · exact hsecond hmem

/-- A run that forwards the request is admitted for the upstream it forwards
to and no other. -/
theorem reported_of_forward {P : Platform} {req : Request}
    {rule : CompiledRoutingRule} {u v rewrittenPath requestId : String}
    {forwardLog last : List ServerExchange}
    {result : Except ProxyError Response}
    (hforward : (forward P req rule v rewrittenPath requestId).Returns
      forwardLog result)
    (hlast : ∀ exchange ∈ last, exchange.op.Quiet)
    (hadmitted : admission u ∈ admission v :: (forwardLog ++ last)) :
    Reported u (admission v :: (forwardLog ++ last)) := by
  have hnot : admission u ∉ forwardLog ++ last := by
    rw [List.mem_append, not_or]
    constructor
    · intro hmem
      have hasked := (forward_onlyAsks forwarding_notAllow ..).of_runs
        hforward _ hmem
      exact hasked u rfl
    · apply not_admission_of_quiet hlast
  obtain rfl : u = v := by
    cases (List.mem_cons.mp hadmitted).resolve_right hnot
    rfl
  apply Reported.cons rfl
  apply (forward_reported hforward).append
  apply reported_of_quiet
  intro exchange hexchange
  apply not_failedAttempt_of_quiet (hlast exchange hexchange)

/-! ## The handler -/

theorem RoutedRun.reported {P : Platform} {plugins : List String}
    {path requestId u : String} {req : Request} {rule : CompiledRoutingRule}
    {log : List ServerExchange} {result : Except ProxyError Response}
    (h : RoutedRun P plugins path req rule requestId log result)
    (hadmitted : admission u ∈ log) : Reported u log := by
  have hbaseQuiet {baseLog : List ServerExchange}
      {base : Except ProxyError String}
      (hbase : (upstreamBaseOf rule path).Returns baseLog base) :
      ∀ exchange ∈ ⟨.recordRouteHit rule.id, ()⟩ :: baseLog,
        exchange.op.Quiet :=
    List.forall_mem_cons.mpr
      ⟨trivial, (upstreamBaseOf_quiet rule path).of_runs hbase⟩
  cases h with
  | noUpstream hbase =>
      exact absurd hadmitted (not_admission_of_quiet (hbaseQuiet hbase) u)
  | breakerOpen hbase =>
      -- The breaker was asked and did not admit the request.
      apply Reported.behind (hbaseQuiet hbase) _ hadmitted
      intro hmem
      rcases List.mem_cons.mp hmem with hasked | hmem
      · cases hasked
      · cases List.mem_singleton.mp hmem
  | forwardFailed hbase hforward =>
      apply Reported.behind (hbaseQuiet hbase) _ hadmitted
      apply reported_of_forward hforward
      exact List.forall_mem_singleton.mpr trivial
  | hookFailed hbase hforward hhooks =>
      apply Reported.behind (hbaseQuiet hbase) _ hadmitted
      apply reported_of_forward hforward
      exact hhooks.asks fun _ _ => trivial
  | finished hbase hforward hhooks =>
      apply Reported.behind (hbaseQuiet hbase) _ hadmitted
      apply reported_of_forward hforward
      exact hhooks.asks fun _ _ => trivial

/-- A finished request that was admitted for `u` has reported every failed
attempt to the breaker of `u`. -/
theorem proxyHandler_reported {P : Platform} {plugins : List String}
    {req : Request} {u : String} {log : List ServerExchange}
    {result : Except ProxyError Response}
    (h : (proxyHandler P plugins req).Returns log result)
    (hadmitted : admission u ∈ log) : Reported u log := by
  have hhooksQuiet {hookLog : List ServerExchange}
      {action : Except String RequestAction}
      (hhooks : RequestHooks plugins.zipIdx req hookLog action) :
      ∀ exchange ∈ hookLog, exchange.op.Quiet :=
    hhooks.asks fun _ _ => trivial
  cases proxyHandler_returns h with
  | hookFailed hid hhooks =>
      apply Reported.behind ((requestIdOf_quiet P req).of_runs hid) _ hadmitted
      intro hmem
      exact absurd hmem (not_admission_of_quiet (hhooksQuiet hhooks) u)
  | shortCircuited hid hhooks =>
      apply Reported.behind ((requestIdOf_quiet P req).of_runs hid) _ hadmitted
      intro hmem
      exact absurd hmem (not_admission_of_quiet (hhooksQuiet hhooks) u)
  | unrouted hid hhooks hrule =>
      apply Reported.behind ((requestIdOf_quiet P req).of_runs hid) _ hadmitted
      apply Reported.behind (hhooksQuiet hhooks)
      intro hmem
      rcases List.mem_cons.mp hmem with hload | hmem
      · cases hload
      · cases List.mem_singleton.mp hmem
  | routed hid hhooks hrule hrun =>
      apply Reported.behind ((requestIdOf_quiet P req).of_runs hid) _ hadmitted
      apply Reported.behind (hhooksQuiet hhooks)
      intro hmem
      rcases List.mem_cons.mp hmem with hload | hmem
      · cases hload
      · apply Reported.cons rfl (hrun.reported hmem)

end ServiceRouter
