import ServiceRouter.Server.BreakerLaw
import ServiceRouter.Server.HandlerRuns

/-!
# Whether the breaker sees upstream failures

Runs of a server: any number of requests interleave, the clock does not go
back, and the breaker answers from the calls made so far.  Failures of plain
HTTP requests are reported before the request ends, those of WebSocket
upgrades are not.
-/

namespace ServiceRouter

open Foundation
open CircuitBreakerMap (BreakerCall lastFailure failuresInARow)

/-! ## Runs of a server -/

def breakerCall? (event : ServerEvent) : Option BreakerCall :=
  match event.exchange.op with
  | .breakerAllow u => some ⟨event.clock, .allow u⟩
  | .breakerRecordSuccess u => some ⟨event.clock, .recordSuccess u⟩
  | .breakerRecordFailure u => some ⟨event.clock, .recordFailure u⟩
  | _ => none

def breakerCalls (events : List ServerEvent) : List BreakerCall :=
  events.filterMap breakerCall?

@[simp] theorem breakerCalls_append (first second : List ServerEvent) :
    breakerCalls (first ++ second) =
      breakerCalls first ++ breakerCalls second :=
  List.filterMap_append

theorem breakerCall?_failureReport {event : ServerEvent} {u : String}
    (h : event.exchange = failureReport u) :
    breakerCall? event = some ⟨event.clock, .recordFailure u⟩ := by
  rw [breakerCall?, h]
  rfl

theorem op_of_recordSuccess {event : ServerEvent} {call : BreakerCall}
    {u : String} (h : breakerCall? event = some call)
    (hop : call.op = .recordSuccess u) :
    event.exchange.op = .breakerRecordSuccess u := by
  unfold breakerCall? at h
  split at h
  · cases h
    cases hop
  · next v hv =>
      cases h
      cases hop
      exact hv
  · cases h
    cases hop
  · cases h

theorem breakerCall?_clock {event : ServerEvent} {call : BreakerCall}
    (h : breakerCall? event = some call) : call.clock = event.clock := by
  unfold breakerCall? at h
  split at h <;> cases h <;> rfl

theorem breakerCalls_clock {events : List ServerEvent}
    (hclock : events.Pairwise fun a b => a.clock ≤ b.clock) :
    (breakerCalls events).Pairwise fun a b => a.clock ≤ b.clock := by
  refine List.Pairwise.filterMap _ ?_ hclock
  intro a b hab call hcall call' hcall'
  rw [breakerCall?_clock hcall, breakerCall?_clock hcall']
  exact hab

def AnsweredBy (cb : CircuitBreakerMap) (event : ServerEvent) : Prop :=
  match event.exchange with
  | ⟨.breakerAllow u, answer⟩ => answer = (cb.allow event.clock u).1
  | _ => True

/-- Every question to the breaker is answered from the calls before it. -/
def BreakerAnswers (cb : CircuitBreakerMap) : List ServerEvent → Prop
  | [] => True
  | event :: rest =>
      AnsweredBy cb event ∧ BreakerAnswers (cb.run (breakerCalls [event])) rest

theorem AnsweredBy.of_admission {cb : CircuitBreakerMap}
    {event : ServerEvent} {u : String} (h : AnsweredBy cb event)
    (hadmitted : event.exchange = admission u) :
    (cb.allow event.clock u).1 = true := by
  rw [AnsweredBy, hadmitted] at h
  exact h.symm

theorem BreakerAnswers.of_append {cb : CircuitBreakerMap}
    {first second : List ServerEvent}
    (h : BreakerAnswers cb (first ++ second)) :
    BreakerAnswers (cb.run (breakerCalls first)) second := by
  induction first generalizing cb with
  | nil => exact h
  | cons event first ih =>
      have hrest := ih h.2
      rwa [← CircuitBreakerMap.run_append, ← breakerCalls_append] at hrest

structure ServerRun (P : Platform) (plugins : List String)
    (requests : Nat → Request) (threshold recoverySecs : Nat)
    (events : List ServerEvent) : Prop where
  interleaves :
    Interleaves (fun id => proxyHandler P plugins (requests id)) events
  clock : events.Pairwise fun a b => a.clock ≤ b.clock
  breaker :
    BreakerAnswers (CircuitBreakerMap.new threshold recoverySecs) events

/-! ## Rounds of failing requests -/

def failedContact (exchange : ServerExchange) : Bool :=
  failedAttempt exchange || failedUpgrade exchange

/-- In `window` the requests `failed`, all admitted for `u`, fail to reach it
and end with an error, and no success of `u` is recorded. -/
structure FailedRound (P : Platform) (plugins : List String)
    (requests : Nat → Request) (u : String)
    (before window : List ServerEvent) (failed : List Nat) : Prop where
  distinct : failed.Nodup
  admitted : ∀ id ∈ failed, admission u ∈ exchangesOf id (before ++ window)
  ended : ∀ id ∈ failed, ∃ e, (proxyHandler P plugins (requests id)).Returns
    (exchangesOf id (before ++ window)) (.error e)
  contact : ∀ id ∈ failed, ∃ event ∈ window,
    event.program = id ∧ failedContact event.exchange = true
  noSuccess : ∀ event ∈ window,
    event.exchange.op ≠ .breakerRecordSuccess u

/-- The next request for `u` is not admitted when it arrives less than the
recovery time after one of the failures. -/
def RejectsNext (recoverySecs : Nat) (u : String)
    (window : List ServerEvent) (failed : List Nat)
    (arrival : ServerEvent) : Prop :=
  (∃ event ∈ window, event.program ∈ failed ∧
    failedContact event.exchange = true ∧
    arrival.clock < event.clock + recoverySecs) →
  arrival.exchange ≠ admission u

def NoneUpgraded (failed : List Nat) (events : List ServerEvent) : Prop :=
  ∀ event ∈ events, event.program ∈ failed →
    ∀ url, event.exchange.op ≠ .connectWebsocket url

private theorem failedAttempt_of_not_upgrade {exchange : ServerExchange}
    (hcontact : failedContact exchange = true)
    (hnot : ∀ url, exchange.op ≠ .connectWebsocket url) :
    failedAttempt exchange = true := by
  obtain ⟨op, reply⟩ := exchange
  cases op with
  | connectWebsocket url => exact absurd rfl (hnot url)
  | _ => simpa [failedContact, failedUpgrade] using hcontact

section Round

variable {P : Platform} {plugins : List String} {requests : Nat → Request}
  {u : String} {before window : List ServerEvent} {failed : List Nat}

theorem FailedRound.report_after
    (hround : FailedRound P plugins requests u before window failed)
    (hclock : window.Pairwise fun a b => a.clock ≤ b.clock)
    {event : ServerEvent} (hevent : event ∈ window)
    (hid : event.program ∈ failed)
    (hattempt : failedAttempt event.exchange = true) :
    ∃ report ∈ window, report.program = event.program ∧
      report.exchange = failureReport u ∧ event.clock ≤ report.clock := by
  obtain ⟨e, hreturns⟩ := hround.ended event.program hid
  have hreported := proxyHandler_reported hreturns
    (hround.admitted event.program hid)
  obtain ⟨first, second, rfl⟩ := List.append_of_mem hevent
  have hsplit : exchangesOf event.program (before ++ (first ++ event :: second)) =
      exchangesOf event.program (before ++ first) ++
        event.exchange :: exchangesOf event.program second := by
    simp [exchangesOf]
  rw [hsplit] at hreported
  obtain ⟨tail, htail⟩ := hreported.of_append.1 hattempt
  have hmem : failureReport u ∈ exchangesOf event.program second := by
    rw [htail]
    exact List.mem_cons_self
  obtain ⟨report, hreport, hprogram, hexchange⟩ := mem_exchangesOf.mp hmem
  refine ⟨report, ?_, hprogram, hexchange, ?_⟩
  · simp [hreport]
  · have hafter := (List.pairwise_append.mp hclock).2.1
    exact (List.pairwise_cons.mp hafter).1 report hreport

private theorem length_le_countP {ids : List Nat} {events : List ServerEvent}
    {p : ServerEvent → Bool} (hdistinct : ids.Nodup)
    (h : ∀ id ∈ ids, ∃ event ∈ events, event.program = id ∧ p event = true) :
    ids.length ≤ events.countP p := by
  have hsubset : ids ⊆ (events.filter p).map Event.program := by
    intro id hid
    obtain ⟨event, hevent, rfl, hp⟩ := h id hid
    exact List.mem_map_of_mem (List.mem_filter.mpr ⟨hevent, hp⟩)
  calc ids.length
      ≤ ((events.filter p).map Event.program).length :=
        (List.subperm_of_subset hdistinct hsubset).length_le
    _ = events.countP p := by rw [List.length_map, List.countP_eq_length_filter]

/-- The round alone brings as many failures in a row as it has requests. -/
theorem FailedRound.length_le_failuresInARow
    (hround : FailedRound P plugins requests u before window failed)
    (hclock : window.Pairwise fun a b => a.clock ≤ b.clock)
    (hplain : NoneUpgraded failed window) :
    failed.length ≤ failuresInARow u (breakerCalls (before ++ window)) := by
  have hcount : failed.length ≤
      (breakerCalls window).countP fun call => call.isFailure u := by
    rw [breakerCalls, List.countP_filterMap]
    refine length_le_countP hround.distinct fun id hid => ?_
    obtain ⟨event, hevent, rfl, hcontact⟩ := hround.contact id hid
    have hattempt := failedAttempt_of_not_upgrade hcontact
      (hplain event hevent hid)
    obtain ⟨report, hreport, hprogram, hexchange, -⟩ :=
      hround.report_after hclock hevent hid hattempt
    refine ⟨report, hreport, hprogram, ?_⟩
    simp [breakerCall?_failureReport hexchange, BreakerCall.isFailure]
  have hsuccess : ∀ call ∈ breakerCalls window, call.isSuccess u = false := by
    intro call hcall
    obtain ⟨event, hevent, heq⟩ := List.mem_filterMap.mp hcall
    rw [BreakerCall.isSuccess, decide_eq_false_iff_not]
    exact fun hop => hround.noSuccess event hevent (op_of_recordSuccess heq hop)
  rw [breakerCalls_append, CircuitBreakerMap.failuresInARow_append hsuccess]
  omega

end Round

/-- In every run: after a round of as many failing requests as the threshold,
none of them a WebSocket upgrade, the next request is not admitted. -/
theorem breaker_rejects_after_failed_round {P : Platform}
    {plugins : List String} {requests : Nat → Request}
    {threshold recoverySecs : Nat} {events : List ServerEvent}
    (hthreshold : 0 < threshold)
    (hrun : ServerRun P plugins requests threshold recoverySecs events)
    {before window after : List ServerEvent} {arrival : ServerEvent}
    {u : String} {failed : List Nat}
    (hevents : events = before ++ window ++ arrival :: after)
    (hlength : failed.length = threshold)
    (hround : FailedRound P plugins requests u before window failed)
    (hplain : NoneUpgraded failed window)
    (hfew : failuresInARow u (breakerCalls (before ++ window)) < 2 ^ 32) :
    RejectsNext recoverySecs u window failed arrival := by
  rintro ⟨event, hevent, hid, hcontact, hrecent⟩ hadmitted
  have hclock := hrun.clock
  rw [hevents] at hclock
  have hpast := (List.pairwise_append.mp hclock).1
  have hwindow := (List.pairwise_append.mp hpast).2.1
  obtain ⟨report, hreport, -, hexchange, hlate⟩ := hround.report_after hwindow
    hevent hid (failedAttempt_of_not_upgrade hcontact
      (hplain event hevent hid))
  have hcall : ⟨report.clock, .recordFailure u⟩ ∈
      breakerCalls (before ++ window) := by
    refine List.mem_filterMap.mpr ⟨report, ?_, ?_⟩
    · exact List.mem_append_right _ hreport
    · exact breakerCall?_failureReport hexchange
  have hfailure : BreakerCall.isFailure u
      ⟨report.clock, .recordFailure u⟩ = true := by
    simp [BreakerCall.isFailure]
  obtain ⟨clock, hlast, hle⟩ := CircuitBreakerMap.le_lastFailure
    (breakerCalls_clock hpast) hcall hfailure
  have hmany := hround.length_le_failuresInARow hwindow hplain
  have harrival : event.clock ≤ arrival.clock :=
    (List.pairwise_append.mp hclock).2.2 event
      (List.mem_append_right _ hevent) arrival List.mem_cons_self
  have hbreaker := hrun.breaker
  rw [hevents] at hbreaker
  have hanswer := hbreaker.of_append.1.of_admission hadmitted
  rw [CircuitBreakerMap.allow_after_history recoverySecs hfew,
    hlast] at hanswer
  rcases hanswer with hzero | hfewer | ⟨opened, hopened, helapsed⟩
  · omega
  · omega
  · have hsame : clock = opened := Option.some.inj hopened
    simp only at hle
    omega

/-! ## Two requests for one upstream -/

def rootRule : CompiledRoutingRule where
  id := "root"
  compiledPath := .exact "/"
  methods := none
  headers := none
  serviceId := none
  upstreamUrl := some "http://up"
  stripPrefix := none
  responseHeaders := none
  priority := 100

def plainRequest : Request where
  method := "GET"
  path := "/"

def upgradeRequest : Request where
  method := "GET"
  path := "/"
  headers := ⟨[(upgradeHeader, .fromStatic "websocket")]⟩

def routedLog : List ServerExchange :=
  [⟨.newUuid, "id"⟩, ⟨.loadRouter, ⟨[rootRule]⟩⟩,
    ⟨.recordRouteHit "root", ()⟩]

def refusedPlainLog : List ServerExchange :=
  routedLog ++ [admission "http://up", ⟨.loadConfig, {}⟩,
    ⟨.send {
      method := "GET"
      url := buildUpstreamUrl "http://up" (rootRule.rewritePath "/") none
      headers := forwardedHeaders .plain plainRequest.headers
        (.fromStatic "id")
      body := [] }, .error "refused"⟩,
    failureReport "http://up", ⟨.recordFailure "upstream_connection", ()⟩]

def refusedUpgradeLog : List ServerExchange :=
  routedLog ++ [admission "http://up",
    ⟨.connectWebsocket (buildWsUrl "http://up" (rootRule.rewritePath "/")
      none), .error "refused"⟩,
    ⟨.recordFailure "ws_upgrade", ()⟩]

theorem refusedPlain_returns :
    (proxyHandler .plain [] plainRequest).Returns refusedPlainLog
      (.error (.upstreamConnection "refused")) :=
  .step _ (.step _ (.step _ (.step _ (.step _ (.step _ (.step _ (.step _
    (.refl _))))))))

theorem refusedUpgrade_returns :
    (proxyHandler .plain [] upgradeRequest).Returns refusedUpgradeLog
      (.error (.wsUpgrade "refused")) :=
  .step _ (.step _ (.step _ (.step _ (.step _ (.step _ (.refl _))))))

theorem plain_answered (answer : Bool) :
    ∃ q, (proxyHandler .plain [] plainRequest).Runs
      (routedLog ++ [⟨.breakerAllow "http://up", answer⟩]) q :=
  ⟨_, .step _ (.step _ (.step _ (.step _ (.refl _))))⟩

/-- Request 0 fails at clock 10; then request 1 is about to ask the breaker. -/
def failedWindow (failedLog : List ServerExchange) : List ServerEvent :=
  eventsAt 10 0 failedLog ++ eventsAt 20 1 routedLog

def lastArrival (answer : Bool) : ServerEvent :=
  ⟨20, 1, ⟨.breakerAllow "http://up", answer⟩⟩

def failedThenPlain (failed : Request) (id : Nat) : Request :=
  if id = 0 then failed else plainRequest

section FailedWindow

variable {failed : Request} {failedLog : List ServerExchange} {e : ProxyError}

theorem serverRun_failedWindow {answer : Bool}
    (hreturns : (proxyHandler .plain [] failed).Returns failedLog (.error e))
    (hbreaker : BreakerAnswers (.new 1 30)
      (failedWindow failedLog ++ [lastArrival answer])) :
    ServerRun .plain [] (failedThenPlain failed) 1 30
      (failedWindow failedLog ++ [lastArrival answer]) where
  interleaves id := by
    have hsplit : failedWindow failedLog ++ [lastArrival answer] =
        eventsAt 10 0 failedLog ++
          eventsAt 20 1 (routedLog ++ [(lastArrival answer).exchange]) :=
      List.append_assoc ..
    rw [hsplit, exchangesOf_append, exchangesOf_eventsAt,
      exchangesOf_eventsAt]
    match id with
    | 0 => exact ⟨_, (List.append_nil failedLog).symm ▸ hreturns⟩
    | 1 => exact plain_answered answer
    | id + 2 => exact ⟨_, .refl _⟩
  clock := by
    unfold failedWindow eventsAt
    simp only [List.pairwise_append, List.pairwise_map, List.mem_append,
      List.mem_map, List.mem_singleton, List.pairwise_singleton]
    refine ⟨⟨?_, ?_, ?_⟩, trivial, ?_⟩
    · exact List.pairwise_of_forall fun _ _ => le_rfl
    · exact List.pairwise_of_forall fun _ _ => le_rfl
    · rintro _ ⟨_, _, rfl⟩ _ ⟨_, _, rfl⟩
      show 10 ≤ 20
      omega
    · rintro _ (⟨_, _, rfl⟩ | ⟨_, _, rfl⟩) _ rfl
      · show 10 ≤ 20
        omega
      · exact le_rfl
  breaker := hbreaker

theorem failedRound_failedWindow
    (hreturns : (proxyHandler .plain [] failed).Returns failedLog (.error e))
    (hadmitted : admission "http://up" ∈ failedLog)
    (hcontact : ∃ exchange ∈ failedLog, failedContact exchange = true)
    (hsuccess : ∀ exchange ∈ failedLog,
      exchange.op ≠ .breakerRecordSuccess "http://up") :
    FailedRound .plain [] (failedThenPlain failed) "http://up" []
      (failedWindow failedLog) [0] := by
  have hlog : exchangesOf 0 (failedWindow failedLog) = failedLog := by
    rw [failedWindow, exchangesOf_append, exchangesOf_eventsAt,
      exchangesOf_eventsAt]
    simp
  refine ⟨List.nodup_singleton 0, ?_, ?_, ?_, ?_⟩
  · intro id hid
    rw [List.mem_singleton.mp hid, List.nil_append, hlog]
    exact hadmitted
  · intro id hid
    rw [List.mem_singleton.mp hid, List.nil_append, hlog]
    exact ⟨e, hreturns⟩
  · intro id hid
    obtain ⟨exchange, hmem, hfailed⟩ := hcontact
    rw [List.mem_singleton.mp hid]
    refine ⟨⟨10, 0, exchange⟩, ?_, rfl, hfailed⟩
    exact List.mem_append_left _ (List.mem_map_of_mem hmem)
  · intro event hevent
    rcases List.mem_append.mp hevent with hmem | hmem
    · obtain ⟨exchange, hexchange, rfl⟩ := List.mem_map.mp hmem
      exact hsuccess exchange hexchange
    · obtain ⟨exchange, hexchange, rfl⟩ := List.mem_map.mp hmem
      simp only [routedLog, List.mem_cons, List.not_mem_nil, or_false]
        at hexchange
      intro hop
      rcases hexchange with rfl | rfl | rfl <;> cases hop

end FailedWindow

theorem breakerAnswers_upgrade :
    BreakerAnswers (.new 1 30)
      (failedWindow refusedUpgradeLog ++ [lastArrival true]) :=
  ⟨trivial, trivial, trivial, rfl, trivial, trivial,
    trivial, trivial, trivial, rfl, trivial⟩

theorem breakerAnswers_plain :
    BreakerAnswers (.new 1 30)
      (failedWindow refusedPlainLog ++ [lastArrival false]) :=
  ⟨trivial, trivial, trivial, rfl, trivial, trivial, trivial, trivial,
    trivial, trivial, trivial, rfl, trivial⟩

theorem failedRound_refusedPlain :
    FailedRound .plain [] (failedThenPlain plainRequest) "http://up" []
      (failedWindow refusedPlainLog) [0] := by
  refine failedRound_failedWindow refusedPlain_returns ?_ ?_ ?_
  · simp [refusedPlainLog]
  · simp [refusedPlainLog, routedLog, failedContact, failedAttempt]
  · intro exchange hmem hop
    simp only [refusedPlainLog, routedLog, List.cons_append, List.nil_append,
      List.mem_cons, List.not_mem_nil, or_false] at hmem
    rcases hmem with rfl | rfl | rfl | rfl | rfl | rfl | rfl | rfl <;>
      cases hop

theorem failedRound_refusedUpgrade :
    FailedRound .plain [] (failedThenPlain upgradeRequest) "http://up" []
      (failedWindow refusedUpgradeLog) [0] := by
  refine failedRound_failedWindow refusedUpgrade_returns ?_ ?_ ?_
  · simp [refusedUpgradeLog]
  · simp [refusedUpgradeLog, routedLog, failedContact, failedUpgrade]
  · intro exchange hmem hop
    simp only [refusedUpgradeLog, routedLog, List.cons_append,
      List.nil_append, List.mem_cons, List.not_mem_nil, or_false] at hmem
    rcases hmem with rfl | rfl | rfl | rfl | rfl | rfl <;> cases hop

theorem recent_failedWindow {failedLog : List ServerExchange} {answer : Bool}
    (hcontact : ∃ exchange ∈ failedLog, failedContact exchange = true) :
    ∃ event ∈ failedWindow failedLog, event.program ∈ [0] ∧
      failedContact event.exchange = true ∧
      (lastArrival answer).clock < event.clock + 30 := by
  obtain ⟨exchange, hmem, hfailed⟩ := hcontact
  refine ⟨⟨10, 0, exchange⟩, ?_, List.mem_singleton_self 0, hfailed, ?_⟩
  · exact List.mem_append_left _ (List.mem_map_of_mem hmem)
  · show 20 < 10 + 30
    omega

theorem breaker_rejects_after_refusedPlain :
    ServerRun .plain [] (failedThenPlain plainRequest) 1 30
        (failedWindow refusedPlainLog ++ [lastArrival false]) ∧
      RejectsNext 30 "http://up" (failedWindow refusedPlainLog) [0]
        (lastArrival false) := by
  have hrun := serverRun_failedWindow refusedPlain_returns breakerAnswers_plain
  refine ⟨hrun, breaker_rejects_after_failed_round Nat.one_pos hrun rfl rfl
    failedRound_refusedPlain ?_ ?_⟩
  · intro event hevent _ url hop
    simp only [failedWindow, eventsAt, refusedPlainLog, routedLog,
      List.cons_append, List.nil_append, List.map_cons, List.map_nil,
      List.mem_cons, List.not_mem_nil, or_false] at hevent
    rcases hevent with rfl | rfl | rfl | rfl | rfl | rfl | rfl | rfl |
      rfl | rfl | rfl <;> cases hop
  · decide

/-- A refused upgrade is not reported, and the next request is admitted. -/
theorem breaker_misses_refusedUpgrade :
    ServerRun .plain [] (failedThenPlain upgradeRequest) 1 30
        (failedWindow refusedUpgradeLog ++ [lastArrival true]) ∧
      FailedRound .plain [] (failedThenPlain upgradeRequest) "http://up" []
        (failedWindow refusedUpgradeLog) [0] ∧
      ¬ RejectsNext 30 "http://up" (failedWindow refusedUpgradeLog) [0]
        (lastArrival true) := by
  refine ⟨serverRun_failedWindow refusedUpgrade_returns
    breakerAnswers_upgrade, failedRound_refusedUpgrade, fun hrejects => ?_⟩
  refine hrejects (recent_failedWindow ?_) rfl
  simp [refusedUpgradeLog, routedLog, failedContact, failedUpgrade]

end ServiceRouter
