import Mathlib.Data.Stream.Init
import ServiceRouter.Foundation.FirstSuccess
import ServiceRouter.Proxy.ResponseHeaders
import ServiceRouter.Server.AppState
import ServiceRouter.Server.HandlerRuns

/-!
# Retries

A request is attempted until an attempt succeeds or the retries are used up.
The outcomes of the attempts are a stream, the script; a run reads as much of
it as the first success or the number of retries allows.
-/

namespace ServiceRouter

open Foundation

/-! ## The two branches -/

def noRetryBranch (P : Platform) (req : Request)
    (upstreamBase rewrittenPath : String) (extra : ExtraHeaders)
    (requestId : String) : ServerProgram (Except ProxyError Response) := do
  let result ← proxyHttp P req upstreamBase rewrittenPath extra requestId
  reportOutcome upstreamBase result
  return result

def rebuiltRequest (req : Request) (bytes : Bytes) : Request :=
  { req with
    headers := req.headers.pairs.foldl (fun headers entry =>
      headers.append entry.1 entry.2) MultiMap.empty
    body := .ok bytes }

def retryBranch (P : Platform) (req : Request)
    (upstreamBase rewrittenPath : String) (extra : ExtraHeaders)
    (requestId : String) (maxRetries : Nat) :
    ServerProgram (Except ProxyError Response) :=
  match req.body with
  | .error reason => return .error (.bodyRead reason)
  | .ok bytes =>
      attemptWithRetries P (rebuiltRequest req bytes) upstreamBase
        rewrittenPath extra requestId maxRetries

theorem proxyWithRetry_eq (P : Platform) (req : Request)
    (u rewrittenPath : String) (extra : ExtraHeaders) (requestId : String)
    (maxRetries : Nat) :
    proxyWithRetry P req u rewrittenPath extra requestId maxRetries =
      if maxRetries = 0
      then noRetryBranch P req u rewrittenPath extra requestId
      else retryBranch P req u rewrittenPath extra requestId maxRetries := rfl

/-- A request whose body has been read is rebuilt as it was. -/
theorem rebuiltRequest_eq {req : Request} {bytes : Bytes}
    (hbody : req.body = .ok bytes) : rebuiltRequest req bytes = req := by
  have hcopy (headers : HeaderMap) (pairs : List (HeaderName × HeaderValue)) :
      pairs.foldl (fun headers entry => headers.append entry.1 entry.2)
        headers = ⟨headers.pairs ++ pairs⟩ := by
    induction pairs generalizing headers with
    | nil => simp
    | cons entry pairs ih =>
        rw [List.foldl_cons, ih]
        simp [MultiMap.append]
  have hheaders := hcopy MultiMap.empty req.headers.pairs
  rw [rebuiltRequest, hheaders, ← hbody]
  rfl

theorem retryBranch_eq {req : Request} {bytes : Bytes}
    (hbody : req.body = .ok bytes) (P : Platform) (u rewrittenPath : String)
    (extra : ExtraHeaders) (requestId : String) (maxRetries : Nat) :
    retryBranch P req u rewrittenPath extra requestId maxRetries =
      attemptWithRetries P req u rewrittenPath extra requestId maxRetries := by
  unfold retryBranch
  rw [hbody]
  dsimp only
  rw [rebuiltRequest_eq hbody]

theorem proxyWithRetry_eq_attempts {req : Request} {bytes : Bytes}
    (hbody : req.body = .ok bytes) (P : Platform) (u rewrittenPath : String)
    (extra : ExtraHeaders) (requestId : String) (maxRetries : Nat) :
    proxyWithRetry P req u rewrittenPath extra requestId maxRetries =
      attemptWithRetries P req u rewrittenPath extra requestId maxRetries := by
  rw [proxyWithRetry_eq, retryBranch_eq hbody]
  split
  · rename_i hzero
    rw [hzero]
    rfl
  · rfl

/-! ## Attempts -/

structure Attempt where
  log : List ServerExchange
  result : Except ProxyError Response

def Attempt.succeeds (attempt : Attempt) : Bool := attempt.result.isOk

def Attempt.report (u : String) (attempt : Attempt) : ServerExchange :=
  if attempt.succeeds then successReport u else failureReport u

/-- What an attempt exchanges with the upstream and then the breaker. -/
def Attempt.reported (u : String) (attempt : Attempt) : List ServerExchange :=
  attempt.log ++ [attempt.report u]

theorem reportOutcome_returns_iff (u : String) (attempt : Attempt)
    {log : List ServerExchange} {reply : Unit} :
    (reportOutcome u attempt.result).Returns log reply ↔
      log = [attempt.report u] := by
  obtain ⟨attemptLog, result⟩ := attempt
  cases result with
  | ok resp => exact returns_perform
  | error e => exact returns_perform

section Retries

variable {P : Platform} {req : Request} {u rewrittenPath requestId : String}
  {extra : ExtraHeaders} {log : List ServerExchange}
  {result : Except ProxyError Response}

/-- A possible attempt at the request. -/
def IsAttempt (P : Platform) (req : Request) (u rewrittenPath : String)
    (extra : ExtraHeaders) (requestId : String) (attempt : Attempt) : Prop :=
  (proxyHttp P req u rewrittenPath extra requestId).Returns attempt.log
    attempt.result

/-- One attempt, its report, and what follows it. -/
private theorem attempt_bind_returns {α : Type} {a : α}
    {next : Except ProxyError Response → ServerProgram α} :
    ((proxyHttp P req u rewrittenPath extra requestId).bind fun result =>
      (reportOutcome u result).bind fun _ => next result).Returns log a ↔
      ∃ attempt rest, IsAttempt P req u rewrittenPath extra requestId attempt ∧
        log = attempt.reported u ++ rest ∧
        (next attempt.result).Returns rest a := by
  rw [Program.returns_bind]
  constructor
  · rintro ⟨first, result, rest, rfl, hfirst, h⟩
    obtain ⟨report, reply, last, rfl, hreport, hnext⟩ :=
      Program.returns_bind.mp h
    refine ⟨⟨first, result⟩, last, hfirst, ?_, hnext⟩
    have hlog := (reportOutcome_returns_iff u ⟨first, result⟩).mp hreport
    simp [Attempt.reported, hlog]
  · rintro ⟨attempt, rest, hattempt, rfl, hnext⟩
    refine ⟨attempt.log, attempt.result, attempt.report u :: rest,
      by simp [Attempt.reported], hattempt, ?_⟩
    exact Program.returns_bind.mpr ⟨[attempt.report u], (), rest, rfl,
      (reportOutcome_returns_iff u attempt).mpr rfl, hnext⟩

/-! ## Scripts -/

def IsScript (P : Platform) (req : Request) (u rewrittenPath : String)
    (extra : ExtraHeaders) (requestId : String)
    (script : Stream' Attempt) : Prop :=
  ∀ i, IsAttempt P req u rewrittenPath extra requestId (script.get i)

/-- The first `retries + 1` attempts of a script with their reports. -/
def scriptLog (u : String) (script : Stream' Attempt) (retries : Nat) :
    List ServerExchange :=
  (script.take (retries + 1)).flatMap (Attempt.reported u)

def retriesUsed (script : Stream' Attempt) (maxRetries : Nat) : Nat :=
  failuresWithin Attempt.succeeds maxRetries script

theorem scriptLog_succ (u : String) (script : Stream' Attempt)
    (retries : Nat) :
    scriptLog u script (retries + 1) =
      script.head.reported u ++ scriptLog u script.tail retries := by
  rw [scriptLog, Stream'.take_succ, List.flatMap_cons, scriptLog]

theorem scriptLog_zero (u : String) (script : Stream' Attempt) :
    scriptLog u script 0 = script.head.reported u := by
  rw [scriptLog, Stream'.take_succ, Stream'.take_zero, List.flatMap_singleton]

theorem retriesUsed_of_succeeds {script : Stream' Attempt}
    (h : script.head.succeeds = true) (maxRetries : Nat) :
    retriesUsed script maxRetries = 0 := by
  cases maxRetries with
  | zero => rfl
  | succ maxRetries => simp [retriesUsed, failuresWithin, h]

theorem retriesUsed_succ_of_fails {script : Stream' Attempt}
    (h : script.head.succeeds = false) (maxRetries : Nat) :
    retriesUsed script (maxRetries + 1) =
      retriesUsed script.tail maxRetries + 1 := by
  simp [retriesUsed, failuresWithin, h]

/-- The script is read no further than its first success. -/
private theorem scriptRun_of_succeeds {script : Stream' Attempt}
    (h : script.head.succeeds = true) (u : String) (maxRetries : Nat) :
    scriptLog u script (retriesUsed script maxRetries) =
        script.head.reported u ∧
      script.get (retriesUsed script maxRetries) = script.head := by
  rw [retriesUsed_of_succeeds h, scriptLog_zero]
  exact ⟨rfl, rfl⟩

private theorem scriptRun_of_fails {script : Stream' Attempt}
    (h : script.head.succeeds = false) (u : String) (maxRetries : Nat) :
    scriptLog u script (retriesUsed script (maxRetries + 1)) =
        script.head.reported u ++
          scriptLog u script.tail (retriesUsed script.tail maxRetries) ∧
      script.get (retriesUsed script (maxRetries + 1)) =
        script.tail.get (retriesUsed script.tail maxRetries) := by
  rw [retriesUsed_succ_of_fails h, scriptLog_succ]
  exact ⟨rfl, rfl⟩

theorem isScript_cons {attempt : Attempt} {script : Stream' Attempt}
    (hattempt : IsAttempt P req u rewrittenPath extra requestId attempt)
    (hscript : IsScript P req u rewrittenPath extra requestId script) :
    IsScript P req u rewrittenPath extra requestId
      (Stream'.cons attempt script) := by
  intro i
  cases i with
  | zero => exact hattempt
  | succ i => exact hscript i

/-- The runs of the loop are the scripts as far as it reads them. -/
theorem attemptWithRetries_returns {maxRetries : Nat} :
    (attemptWithRetries P req u rewrittenPath extra requestId
      maxRetries).Returns log result ↔
      ∃ script, IsScript P req u rewrittenPath extra requestId script ∧
        log = scriptLog u script (retriesUsed script maxRetries) ∧
        result = (script.get (retriesUsed script maxRetries)).result := by
  induction maxRetries generalizing log with
  | zero =>
      refine attempt_bind_returns.trans ?_
      constructor
      · rintro ⟨attempt, rest, hattempt, rfl, hrest⟩
        obtain ⟨rfl, rfl⟩ := Program.returns_done.mp hrest
        refine ⟨Stream'.const attempt, fun _ => hattempt, ?_, rfl⟩
        rw [List.append_nil]
        exact (scriptLog_zero u (Stream'.const attempt)).symm
      · rintro ⟨script, hscript, rfl, rfl⟩
        refine ⟨script.head, [], hscript 0, ?_, .refl _⟩
        rw [List.append_nil]
        exact scriptLog_zero u script
  | succ maxRetries ih =>
      refine attempt_bind_returns.trans ?_
      constructor
      · rintro ⟨⟨attemptLog, outcome⟩, rest, hattempt, rfl, hrest⟩
        cases outcome with
        | ok resp =>
            obtain ⟨rfl, rfl⟩ := Program.returns_done.mp hrest
            let script := Stream'.const (Attempt.mk attemptLog (.ok resp))
            have hhead : script.head.succeeds = true := rfl
            have hrun := scriptRun_of_succeeds hhead u (maxRetries + 1)
            refine ⟨script, fun _ => hattempt, ?_, ?_⟩
            · rw [hrun.1, List.append_nil]
              rfl
            · rw [hrun.2]
              rfl
        | error e =>
            obtain ⟨later, hlater, rfl, rfl⟩ := ih.mp hrest
            let script := Stream'.cons (Attempt.mk attemptLog (.error e)) later
            have hhead : script.head.succeeds = false := rfl
            have hrun := scriptRun_of_fails hhead u maxRetries
            exact ⟨script, isScript_cons hattempt hlater, hrun.1.symm,
              congrArg Attempt.result hrun.2.symm⟩
      · rintro ⟨script, hscript, rfl, rfl⟩
        cases hresult : script.head.result with
        | ok resp =>
            have hhead : script.head.succeeds = true := by
              rw [Attempt.succeeds, hresult]
              rfl
            have hrun := scriptRun_of_succeeds hhead u (maxRetries + 1)
            rw [hrun.1, hrun.2]
            refine ⟨script.head, [], hscript 0, by simp, ?_⟩
            rw [hresult]
            exact .refl _
        | error e =>
            have hhead : script.head.succeeds = false := by
              rw [Attempt.succeeds, hresult]
              rfl
            have hrun := scriptRun_of_fails hhead u maxRetries
            refine ⟨script.head, _, hscript 0, hrun.1, ?_⟩
            rw [hresult]
            exact ih.mpr ⟨script.tail, fun i => hscript (i + 1), rfl,
              congrArg Attempt.result hrun.2⟩

/-! ## What the attempts send and report -/

def sentRequest (P : Platform) (req : Request) (u rewrittenPath : String)
    (id : HeaderValue) (bytes : Bytes) : UpstreamRequest where
  method := req.method
  url := buildUpstreamUrl u rewrittenPath req.query
  headers := forwardedHeaders P req.headers id
  body := bytes

/-- Every attempt sends the same request, or none when the request id is not a
header value. -/
theorem isAttempt_log {attempt : Attempt} {bytes : Bytes}
    (hbody : req.body = .ok bytes)
    (h : IsAttempt P req u rewrittenPath extra requestId attempt) :
    match P.headerValue requestId with
    | some id => ∃ reply, attempt.log =
        [⟨.send (sentRequest P req u rewrittenPath id bytes), reply⟩]
    | none => attempt.log = [] := by
  unfold IsAttempt proxyHttp at h
  cases hid : P.headerValue requestId with
  | none =>
      simp only [hbody, hid, Program.pure_eq, Program.returns_done] at h
      exact h.1
  | some id =>
      simp only [hbody, hid, Program.bind_eq, returns_perform_bind] at h
      obtain ⟨reply, rest, hlog, h⟩ := h
      refine ⟨reply, ?_⟩
      cases reply with
      | error reason =>
          obtain ⟨rfl, -⟩ := Program.returns_done.mp h
          exact hlog
      | ok upstream =>
          cases hbytes : upstream.body with
          | error reason =>
              simp only [hbytes, Program.pure_eq, Program.returns_done] at h
              rw [hlog, h.1]
              rfl
          | ok bytes =>
              simp only [hbytes, Program.pure_eq, Program.returns_done] at h
              rw [hlog, h.1]
              rfl

def ServerOp.isReport : ServerOp → Bool
  | .breakerRecordSuccess _ => true
  | .breakerRecordFailure _ => true
  | _ => false

/-- What is reported to the breaker, in order. -/
def reports (log : List ServerExchange) : List ServerExchange :=
  log.filter fun exchange => ServerOp.isReport exchange.op

theorem reports_append (first second : List ServerExchange) :
    reports (first ++ second) = reports first ++ reports second :=
  List.filter_append ..

theorem reports_reported {attempt : Attempt}
    (h : IsAttempt P req u rewrittenPath extra requestId attempt) :
    reports (attempt.reported u) = [attempt.report u] := by
  have hquiet : reports attempt.log = [] := by
    rw [reports, List.filter_eq_nil_iff]
    intro exchange hmem
    obtain ⟨body, id, -, -, hop⟩ := (proxyHttp_asks P req u rewrittenPath extra
      requestId).of_runs h exchange hmem
    rw [hop]
    simp [ServerOp.isReport]
  have hreport : ServerOp.isReport (attempt.report u).op = true := by
    unfold Attempt.report
    split
    · rfl
    · rfl
  rw [Attempt.reported, reports_append, hquiet]
  simp [reports, hreport]

theorem reports_scriptLog {script : Stream' Attempt}
    (h : IsScript P req u rewrittenPath extra requestId script)
    (maxRetries : Nat) :
    reports (scriptLog u script (retriesUsed script maxRetries)) =
      List.replicate (retriesUsed script maxRetries) (failureReport u) ++
        [(script.get (retriesUsed script maxRetries)).report u] := by
  induction maxRetries generalizing script with
  | zero =>
      have hzero : retriesUsed script 0 = 0 := rfl
      rw [hzero, scriptLog_zero, reports_reported (h 0)]
      rfl
  | succ maxRetries ih =>
      cases hhead : script.head.succeeds with
      | true =>
          rw [retriesUsed_of_succeeds hhead, scriptLog_zero,
            reports_reported (h 0)]
          rfl
      | false =>
          have hfirst : reports (script.head.reported u) =
              [failureReport u] := by
            have hreport : script.head.report u = failureReport u := by
              simp [Attempt.report, hhead]
            exact (reports_reported (h 0)).trans (by rw [← hreport])
          have htail : IsScript P req u rewrittenPath extra requestId
              script.tail := fun i => h (i + 1)
          rw [retriesUsed_succ_of_fails hhead, scriptLog_succ, reports_append,
            hfirst, ih htail, List.replicate_succ]
          rfl

/-- The attempts of a run follow a script up to its first success or the last
retry, and the reports are those of the attempts. -/
theorem proxyWithRetry_follows_script {bytes : Bytes}
    (hbody : req.body = .ok bytes) (maxRetries : Nat) :
    (∀ script, IsScript P req u rewrittenPath extra requestId script →
      ∃ retries : ℕ,
        retries = min (failuresBeforeSuccess Attempt.succeeds script)
          maxRetries ∧
        (proxyWithRetry P req u rewrittenPath extra requestId
          maxRetries).Returns (scriptLog u script retries)
          (script.get retries).result ∧
        reports (scriptLog u script retries) =
          if (script.get retries).succeeds
          then List.replicate retries (failureReport u) ++ [successReport u]
          else List.replicate (retries + 1) (failureReport u)) ∧
    (∀ log result, (proxyWithRetry P req u rewrittenPath extra requestId
        maxRetries).Returns log result →
      ∃ script, IsScript P req u rewrittenPath extra requestId script ∧
        ∀ retries : ℕ,
          retries = min (failuresBeforeSuccess Attempt.succeeds script)
            maxRetries →
          log = scriptLog u script retries ∧
            result = (script.get retries).result) ∧
    ∀ attempt, IsAttempt P req u rewrittenPath extra requestId attempt →
      match P.headerValue requestId with
      | some id => ∃ reply, attempt.log =
          [⟨.send (sentRequest P req u rewrittenPath id bytes), reply⟩]
      | none => attempt.log = [] := by
  refine ⟨fun script hscript => ?_, fun log result h => ?_,
    fun attempt hattempt => isAttempt_log hbody hattempt⟩
  · refine ⟨retriesUsed script maxRetries, failuresWithin_eq_min .., ?_, ?_⟩
    · rw [proxyWithRetry_eq_attempts hbody]
      exact attemptWithRetries_returns.mpr ⟨script, hscript, rfl, rfl⟩
    · rw [reports_scriptLog hscript, Attempt.report]
      split
      · rfl
      · rw [List.replicate_succ']
  · rw [proxyWithRetry_eq_attempts hbody] at h
    obtain ⟨script, hscript, hlog, hresult⟩ := attemptWithRetries_returns.mp h
    refine ⟨script, hscript, fun retries hretries => ?_⟩
    have hused : retries = retriesUsed script maxRetries := by
      rw [← failuresWithin_eq_min, Nat.cast_inj] at hretries
      exact hretries
    rw [hused]
    exact ⟨hlog, hresult⟩

end Retries

def refusedAttempt : Attempt where
  log := [⟨.send (sentRequest .plain rootRequest "http://up" "/"
    (.fromStatic "id") []), .error "refused"⟩]
  result := .error (.upstreamConnection "refused")

def answeredAttempt : Attempt where
  log := [⟨.send (sentRequest .plain rootRequest "http://up" "/"
    (.fromStatic "id") []), .ok serverUpstream⟩]
  result := .ok ⟨200, responseHeaders .plain serverUpstream.headers none, []⟩

/-- One refusal, then an answer: the second retry is not used. -/
theorem proxyWithRetry_follows_refusal :
    ∃ log, (proxyWithRetry .plain rootRequest "http://up" "/" none "id"
        2).Returns log answeredAttempt.result ∧
      reports log = [failureReport "http://up", successReport "http://up"] := by
  have hscript : IsScript .plain rootRequest "http://up" "/" none "id"
      (Stream'.cons refusedAttempt (Stream'.const answeredAttempt)) := by
    apply isScript_cons
    · exact proxyHttp_returns_of_refusal .plain rootRequest "http://up" "/" none
        "id" "refused" rfl rfl
    · intro _
      exact proxyHttp_returns_of_answer .plain rootRequest "http://up" "/" none
        "id" serverUpstream rfl rfl rfl
  have hbody : rootRequest.body = .ok [] := rfl
  obtain ⟨retries, hretries, hreturns, hreports⟩ :=
    (proxyWithRetry_follows_script hbody 2).1 _ hscript
  rw [← failuresWithin_eq_min, Nat.cast_inj] at hretries
  obtain rfl : retries = 1 := hretries
  exact ⟨_, hreturns, hreports⟩

/-! ## The branch without retries -/

/-- Served from the same state, the programs return the same and leave the
breaker in the same state. -/
def ServedAlike (P : Platform) (world : World) (s : Serving)
    (p q : ServerProgram (Except ProxyError Response)) : Prop :=
  (Program.serve (Serving.answer P world) s p).result =
      (Program.serve (Serving.answer P world) s q).result ∧
    (Program.serve (Serving.answer P world) s p).state.state.circuitBreaker =
      (Program.serve (Serving.answer P world) s q).state.state.circuitBreaker

/-- The branch without retries agrees with the other unless a breaker that is
in use is told of a body that could not be read. -/
theorem noRetryBranch_served_iff (P : Platform) (world : World) (s : Serving)
    (req : Request) (u rewrittenPath : String) (extra : ExtraHeaders)
    (requestId : String) :
    ServedAlike P world s
        (noRetryBranch P req u rewrittenPath extra requestId)
        (retryBranch P req u rewrittenPath extra requestId 0) ↔
      (∃ bytes, req.body = .ok bytes) ∨
        s.state.circuitBreaker.threshold = 0 := by
  cases hbody : req.body with
  | ok bytes =>
      rw [retryBranch_eq hbody]
      exact iff_of_true ⟨rfl, rfl⟩ (Or.inl ⟨bytes, rfl⟩)
  | error reason =>
      have hfast : Program.serve (Serving.answer P world) s
          (noRetryBranch P req u rewrittenPath extra requestId) =
          ⟨[failureReport u],
            (s.answer P world (.breakerRecordFailure u)).2,
            some (.error (.bodyRead reason))⟩ := by
        unfold noRetryBranch proxyHttp
        rw [hbody]
        rfl
      have hgeneral : Program.serve (Serving.answer P world) s
          (retryBranch P req u rewrittenPath extra requestId 0) =
          ⟨[], s, some (.error (.bodyRead reason))⟩ := by
        unfold retryBranch
        rw [hbody]
        rfl
      have hstate : (s.answer P world
            (.breakerRecordFailure u)).2.state.circuitBreaker =
          s.state.circuitBreaker.recordFailure (world.clock s.contacts) u := rfl
      rw [ServedAlike, hfast, hgeneral, hstate,
        CircuitBreakerMap.recordFailure_eq_self_iff]
      simp

/-- An upstream that answers every request. -/
def answeringWorld : World where
  uuid := "id"
  randomHash _ := 0
  clock _ := 0
  upstream _ _ _ := .ok serverUpstream
  websocket _ _ := .ok ()

/-- One failure opens the breaker. -/
def sensitiveServing : Serving where
  state := AppState.new ⟨[]⟩ (.new [] .priority)
    { server := { circuitBreakerThreshold := 1 } } 30 {}
  contacts := 0

def brokenUpload : Request where
  method := "POST"
  path := "/"
  body := .error "connection reset"

/-- A client that breaks off its upload opens the breaker of an upstream that
was not contacted. -/
theorem noRetryBranch_opens_breaker :
    ¬ServedAlike .plain answeringWorld sensitiveServing
        (noRetryBranch .plain brokenUpload "http://up" "/" none "id")
        (retryBranch .plain brokenUpload "http://up" "/" none "id" 0) ∧
      ((Program.serve (Serving.answer .plain answeringWorld) sensitiveServing
        (noRetryBranch .plain brokenUpload "http://up" "/" none
          "id")).state.state.circuitBreaker.allow 0 "http://up").1 = false ∧
      ((Program.serve (Serving.answer .plain answeringWorld) sensitiveServing
        (retryBranch .plain brokenUpload "http://up" "/" none "id"
          0)).state.state.circuitBreaker.allow 0 "http://up").1 = true := by
  refine ⟨fun halike => ?_, by decide, by decide⟩
  have hbreaker := congrArg (fun cb : CircuitBreakerMap =>
    (cb.allow 0 "http://up").1) halike.2
  revert hbreaker
  decide

end ServiceRouter
