import ServiceRouter.Server.BreakerFeedback
import ServiceRouter.Server.ForwardingDiscipline

/-!
# Which traffic requests cause

The whole handler keeps to what is permitted at each point of its run.  Hence,
in every interleaving, an upstream is contacted only for a request that its
rule sends there and that the breaker has admitted.
-/

namespace ServiceRouter

open Foundation
open CircuitBreakerMap (BreakerCall lastFailure failuresInARow)

section Whole

variable {P : Platform} {req : Request}
  {rule : CompiledRoutingRule} {u requestId : String}
  {routed : Request} {log : List ServerExchange}

theorem runOnResponse_obeys (plugins : List (String × Nat)) (res : Response)
    (h : admission u ∈ log) :
    (runOnResponse plugins res).Obeys (requestMonitor P req)
      (fun _ _ => True) log := by
  induction plugins generalizing res log with
  | nil => trivial
  | cons plugin plugins ih =>
      obtain ⟨name, position⟩ := plugin
      refine obeys_perform_bind.mpr ⟨⟨u, h⟩, fun outcome => ?_⟩
      cases outcome with
      | ok changed => exact ih changed (List.mem_append_left _ h)
      | error reason => trivial
      | panicked => trivial

theorem finishForwarded_obeys (plugins : List String)
    (forwarded : Except ProxyError Response) (h : admission u ∈ log) :
    (finishForwarded P plugins requestId forwarded).Obeys
      (requestMonitor P req) (fun _ _ => True) log := by
  cases forwarded with
  | error e => exact obeys_perform_bind.mpr ⟨trivial, fun _ => trivial⟩
  | ok res =>
      refine Program.obeys_bind.mpr ?_
      refine (runOnResponse_obeys _ res h).mono fun later answered _ => ?_
      cases answered <;> trivial

theorem handleRouted_obeys (plugins : List String)
    (hrouted : RoutedTo P req log rule)
    (hcurrent : requestAfter req log = routed) (hquiet : Unforwarded log) :
    (handleRouted P plugins req.path routed rule requestId).Obeys
      (requestMonitor P req) (fun _ _ => True) log := by
  unfold handleRouted
  refine obeys_perform_bind.mpr ⟨⟨rule, hrouted, rfl⟩, fun hit => ?_⟩
  have hhit : ∀ exchange ∈
      ([⟨.recordRouteHit rule.id, hit⟩] : List ServerExchange),
      exchange.op.Choosing :=
    List.forall_mem_singleton.mpr ⟨trivial, fun _ _ h => by cases h⟩
  rw [Program.bind_eq, Program.obeys_bind]
  refine (upstreamBaseOf_obeys (hrouted.append fun e he => (hhit e he).2)
    req.path).mono ?_
  rintro later base ⟨⟨rest, rfl, hrest⟩, htargets⟩
  cases base with
  | error e => trivial
  | ok u =>
      have hadded : ∀ exchange ∈ [⟨.recordRouteHit rule.id, hit⟩] ++ rest,
          exchange.op.Choosing := List.forall_mem_append.mpr ⟨hhit, hrest⟩
      have hallQuiet : Unforwarded
          (log ++ ([⟨.recordRouteHit rule.id, hit⟩] ++ rest)) :=
        List.forall_mem_append.mpr
          ⟨hquiet, fun exchange hmem => (hadded exchange hmem).1⟩
      have hrouted' := hrouted.append fun e he => (hadded e he).2
      have hcurrent' := (requestAfter_append
        (fun e he => (hadded e he).2) req log).trans hcurrent
      have htarget := htargets u rfl
      rw [List.append_assoc] at htarget ⊢
      refine obeys_perform_bind.mpr
        ⟨⟨⟨rule, hrouted', htarget⟩, ?_⟩, fun answer => ?_⟩
      · exact fun v answer hmem => hallQuiet _ hmem
      · cases answer with
        | false => exact obeys_perform_bind.mpr ⟨trivial, fun _ => trivial⟩
        | true =>
            have hanswer : ∀ exchange ∈
                ([⟨.breakerAllow u, true⟩] : List ServerExchange),
                exchange.op.NoRequestHook :=
              List.forall_mem_singleton.mpr fun _ _ h => by cases h
            refine Program.obeys_bind.mpr ?_
            refine (forward_obeys (u := u) ⟨hrouted'.append hanswer,
              htarget.append, ?_⟩ ?_ ?_ ?_).mono fun later forwarded h =>
                finishForwarded_obeys plugins forwarded h
            · exact List.mem_append_right _ (List.mem_singleton.mpr rfl)
            · exact (requestAfter_append hanswer req _).trans hcurrent'
            · rw [attempts_append, hallQuiet.attempts_eq]
              rfl
            · intro url reply hmem
              rcases List.mem_append.mp hmem with hmem | hmem
              · exact hallQuiet _ hmem
              · cases List.mem_singleton.mp hmem

/-- Only the hooks have run. -/
def OnlyHooks (log : List ServerExchange) : Prop :=
  ∀ exchange ∈ log,
    exchange.op = .newUuid ∨ ∃ position req, exchange.op = .onRequest position req

theorem OnlyHooks.unforwarded (h : OnlyHooks log) : Unforwarded log := by
  intro exchange hmem
  rcases h exchange hmem with hop | ⟨position, req, hop⟩
  · rw [hop]
    trivial
  · rw [hop]
    trivial

theorem OnlyHooks.not_loaded (h : OnlyHooks log) (router : RouterSnapshot) :
    (⟨.loadRouter, router⟩ : ServerExchange) ∉ log := by
  intro hmem
  rcases h _ hmem with hop | ⟨position, req, hop⟩ <;> cases hop

theorem OnlyHooks.hook (h : OnlyHooks log) (position : Nat) (req : Request)
    (outcome : HookOutcome RequestAction) :
    OnlyHooks (log ++ [⟨.onRequest position req, outcome⟩]) :=
  List.forall_mem_append.mpr
    ⟨h, List.forall_mem_singleton.mpr (.inr ⟨position, req, rfl⟩)⟩

theorem runOnRequest_obeys (plugins : List (String × Nat))
    (hhooks : OnlyHooks log) (hcurrent : requestAfter req log = routed) :
    (runOnRequest plugins routed).Obeys (requestMonitor P req)
      (fun later action => OnlyHooks later ∧
        ∀ next, action = .ok (.continue_ next) →
          requestAfter req later = next) log := by
  induction plugins generalizing routed log with
  | nil =>
      refine ⟨hhooks, fun next hnext => ?_⟩
      cases hnext
      exact hcurrent
  | cons plugin plugins ih =>
      obtain ⟨name, position⟩ := plugin
      refine obeys_perform_bind.mpr
        ⟨⟨hcurrent.symm, hhooks.not_loaded⟩, fun outcome => ?_⟩
      have hhooks' := hhooks.hook position routed outcome
      rcases outcome with ⟨next | resp⟩ | reason | _
      · apply ih hhooks'
        simp [requestAfter]
      · exact ⟨hhooks', fun next h => by cases h⟩
      · exact ⟨hhooks', fun next h => by cases h⟩
      · exact ⟨hhooks', fun next h => by cases h⟩

theorem proxyHandler_obeys (plugins : List String) :
    (proxyHandler P plugins req).Obeys (requestMonitor P req)
      (fun _ _ => True) [] := by
  unfold proxyHandler
  rw [Program.bind_eq, Program.obeys_bind]
  have hasks : (requestIdOf P req).OnlyAsks (ServerOp.newUuid = ·) :=
    requestIdOf_onlyAsks rfl P req
  refine Program.obeys_of_onlyAsks hasks ?_ fun idLog requestId hid => ?_
  · rintro log op rfl
    trivial
  have hids : OnlyHooks idLog := fun exchange hmem =>
    .inl (hasks.of_runs hid exchange hmem).symm
  have hhook : ∀ exchange ∈ idLog, exchange.op.NoRequestHook := by
    intro exchange hmem
    rw [← hasks.of_runs hid exchange hmem]
    exact fun _ _ h => by cases h
  have hcurrent : requestAfter req idLog = req :=
    requestAfter_append hhook req []
  rw [requestMonitor_after, List.nil_append]
  refine Program.obeys_bind.mpr ?_
  refine (runOnRequest_obeys _ hids hcurrent).mono ?_
  rintro log action ⟨hhooks, hnext⟩
  rcases action with e | ⟨routed⟩ | resp
  · trivial
  · refine obeys_perform_bind.mpr ⟨hhooks.not_loaded, fun router => ?_⟩
    have hload : ∀ exchange ∈ ([⟨.loadRouter, router⟩] : List ServerExchange),
        exchange.op.NoRequestHook :=
      List.forall_mem_singleton.mpr fun _ _ h => by cases h
    have hcurrent' : requestAfter req (log ++ [⟨.loadRouter, router⟩]) =
        routed := (requestAfter_append hload req log).trans (hnext routed rfl)
    cases hrule : RouterSnapshot.resolvedRule P router req.path req.method
        routed.headers with
    | none => exact obeys_perform_bind.mpr ⟨trivial, fun _ => trivial⟩
    | some rule =>
        apply handleRouted_obeys plugins _ hcurrent'
        · exact List.forall_mem_append.mpr
            ⟨hhooks.unforwarded, List.forall_mem_singleton.mpr trivial⟩
        · refine ⟨router, List.mem_append_right _ (List.mem_singleton.mpr rfl),
            ?_⟩
          rwa [hcurrent']
  · trivial

end Whole

/-! ## Every interleaving -/

theorem permitted_of_runs {P : Platform} {plugins : List String}
    {req : Request} {first rest : List ServerExchange}
    {exchange : ServerExchange}
    {remaining : ServerProgram (Except ProxyError Response)}
    (h : (proxyHandler P plugins req).Runs (first ++ exchange :: rest)
      remaining) :
    Permitted P req first exchange.op := by
  have haccepts := ((proxyHandler_obeys plugins).of_runs h).1
  have hpermitted := haccepts.allowed_at
  rwa [requestMonitor_after, List.nil_append] at hpermitted

theorem exchangesOf_split (before after : List ServerEvent)
    (event : ServerEvent) :
    exchangesOf event.program (before ++ event :: after) =
      exchangesOf event.program before ++
        event.exchange :: exchangesOf event.program after := by
  simp [exchangesOf]

/-- In every interleaving of any number of requests each one does at each
point only what its own exchanges so far permit. -/
theorem handlers_permitted {P : Platform} {plugins : List String}
    {requests : Nat → Request} {before after : List ServerEvent}
    {event : ServerEvent}
    (h : Interleaves (fun id => proxyHandler P plugins (requests id))
      (before ++ event :: after)) :
    Permitted P (requests event.program)
      (exchangesOf event.program before) event.exchange.op := by
  obtain ⟨remaining, hrun⟩ := h event.program
  rw [exchangesOf_split] at hrun
  exact permitted_of_runs hrun

/-- A refused request, up to the point where it is sent. -/
def sentPlain : List ServerExchange :=
  routedLog ++ [admission "http://up", ⟨.loadConfig, {}⟩]

def sendPlain : ServerExchange :=
  ⟨.send {
    method := "GET"
    url := buildUpstreamUrl "http://up" (rootRule.rewritePath "/") none
    headers := forwardedHeaders .plain plainRequest.headers (.fromStatic "id")
    body := [] }, .error "refused"⟩

theorem interleaves_sentPlain :
    Interleaves (fun _ => proxyHandler .plain [] plainRequest)
      (eventsAt 10 0 sentPlain ++ ⟨10, 0, sendPlain⟩ :: []) := by
  have hevents : eventsAt 10 0 sentPlain ++ [⟨10, 0, sendPlain⟩] =
      eventsAt 10 0 (sentPlain ++ [sendPlain]) := rfl
  intro id
  rw [hevents, exchangesOf_eventsAt]
  split
  · exact ⟨_, .step _ (.step _ (.step _ (.step _ (.step _ (.step _
      (.refl _))))))⟩
  · exact ⟨_, .refl _⟩

theorem handlers_permitted_refused :
    Permitted .plain plainRequest sentPlain sendPlain.op :=
  have hevent : (⟨10, 0, sendPlain⟩ : ServerEvent).exchange = sendPlain := rfl
  hevent ▸ handlers_permitted interleaves_sentPlain

/-! ## Contacts and the breaker -/

/-- The URL of an upstream that an operation contacts. -/
def contactUrl : ServerOp → Option String
  | .send sent => some sent.url
  | .connectWebsocket url => some url
  | _ => none

theorem failuresInARow_le (u : String) (events : List ServerEvent) :
    failuresInARow u (breakerCalls events) ≤ events.length :=
  calc failuresInARow u (breakerCalls events)
    _ ≤ ((breakerCalls events).reverse.takeWhile _).length :=
      List.countP_le_length
    _ ≤ (breakerCalls events).reverse.length :=
      (List.takeWhile_prefix _).length_le
    _ = (breakerCalls events).length := List.length_reverse
    _ ≤ events.length := List.length_filterMap_le _ _

/-- What a contact of `u` at `url` is preceded by: the request was admitted
when few failures in a row were recorded or the last one was old enough. -/
structure PassedBreaker (threshold recoverySecs : Nat) (u : String)
    (before : List ServerEvent) (event admitting : ServerEvent)
    (earlier since : List ServerEvent) : Prop where
  before : before = earlier ++ admitting :: since
  own : admitting.program = event.program
  admission : admitting.exchange = admission u
  clock : admitting.clock ≤ event.clock
  breaker : threshold = 0 ∨
    failuresInARow u (breakerCalls earlier) < threshold ∨
    ∃ clock, lastFailure u (breakerCalls earlier) = some clock ∧
      recoverySecs ≤ admitting.clock - clock

theorem Permitted.admittedFor {P : Platform} {req : Request}
    {log : List ServerExchange} {op : ServerOp} {url : String}
    (h : Permitted P req log op) (hcontact : contactUrl op = some url) :
    ∃ rule u, AdmittedFor P req log rule u ∧
      ∃ query, url = buildUpstreamUrl u (rule.rewritePath req.path) query ∨
        url = buildWsUrl u (rule.rewritePath req.path) query := by
  cases op with
  | send sent =>
      cases hcontact
      obtain ⟨rule, u, config, hsend⟩ := h
      exact ⟨rule, u, hsend.admitted, _, .inl hsend.url⟩
  | connectWebsocket asked =>
      cases hcontact
      obtain ⟨rule, u, hconnect⟩ := h
      exact ⟨rule, u, hconnect.admitted, _, .inr hconnect.url⟩
  | _ => cases hcontact

/-- An upstream is contacted only for a request that its rule sends there and
that the breaker has admitted from what was recorded before. -/
theorem contacts_pass_breaker {P : Platform} {plugins : List String}
    {requests : Nat → Request} {threshold recoverySecs : Nat}
    {before after : List ServerEvent} {event : ServerEvent} {url : String}
    (hrun : ServerRun P plugins requests threshold recoverySecs
      (before ++ event :: after))
    (hfew : before.length < 2 ^ 32)
    (hcontact : contactUrl event.exchange.op = some url) :
    ∃ rule u admitting earlier since,
      AdmittedFor P (requests event.program)
        (exchangesOf event.program before) rule u ∧
      (∃ query,
        url = buildUpstreamUrl u
          (rule.rewritePath (requests event.program).path) query ∨
        url = buildWsUrl u
          (rule.rewritePath (requests event.program).path) query) ∧
      PassedBreaker threshold recoverySecs u before event admitting earlier
        since := by
  obtain ⟨remaining, hown⟩ := hrun.interleaves event.program
  rw [exchangesOf_split] at hown
  obtain ⟨rule, u, hadmitted, hurl⟩ :=
    (permitted_of_runs hown).admittedFor hcontact
  obtain ⟨admitting, hmem, hprogram, hadmission⟩ :=
    mem_exchangesOf.mp hadmitted.admitted
  obtain ⟨earlier, since, hsplit⟩ := List.append_of_mem hmem
  refine ⟨rule, u, admitting, earlier, since, hadmitted, hurl, ?_⟩
  have hanswers := hrun.breaker
  have hclock := hrun.clock
  rw [hsplit, List.append_assoc, List.cons_append] at hanswers hclock
  have hearlier : failuresInARow u (breakerCalls earlier) < 2 ^ 32 := by
    have hlength := congrArg List.length hsplit
    rw [List.length_append] at hlength
    have := failuresInARow_le u earlier
    omega
  exact {
    before := hsplit
    own := hprogram
    admission := hadmission
    clock := by
      have hlater := (List.pairwise_append.mp hclock).2.1
      rw [List.pairwise_cons] at hlater
      exact hlater.1 event (by simp)
    breaker := (CircuitBreakerMap.allow_after_history recoverySecs hearlier
      admitting.clock).mp
        (hanswers.of_append.1.of_admission hadmission) }

theorem contacts_pass_breaker_refused :
    ∃ rule u admitting earlier since,
      AdmittedFor .plain plainRequest sentPlain rule u ∧
      (∃ query,
        "http://up/" = buildUpstreamUrl u (rule.rewritePath "/") query ∨
        "http://up/" = buildWsUrl u (rule.rewritePath "/") query) ∧
      PassedBreaker 1 30 u (eventsAt 10 0 sentPlain) ⟨10, 0, sendPlain⟩
        admitting earlier since := by
  have hrun : ServerRun .plain [] (fun _ => plainRequest) 1 30
      (eventsAt 10 0 sentPlain ++ ⟨10, 0, sendPlain⟩ :: []) := {
    interleaves := interleaves_sentPlain
    clock := by decide
    breaker := ⟨trivial, trivial, trivial, rfl, trivial, trivial, trivial⟩ }
  exact contacts_pass_breaker hrun (by decide) (by decide)

end ServiceRouter
