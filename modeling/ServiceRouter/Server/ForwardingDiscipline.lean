import ServiceRouter.Server.RequestDiscipline

/-!
# Attempts keep to what is permitted

An admitted request is sent again only while every attempt before it has failed
and the configuration it has loaded allows more.  Each attempt is reported to
the breaker of the upstream that admitted the request.
-/

namespace ServiceRouter

open Foundation

variable {P : Platform} {req : Request}

/-! ## One attempt -/

def Sendable (P : Platform) (sending : Request) (requestId : String) : Prop :=
  ∃ body id, sending.body = .ok body ∧ P.headerValue requestId = some id

/-- Attempts for the message `sending` may go on, `left` of them after the
next one. -/
structure Trying (P : Platform) (req : Request) (rule : CompiledRoutingRule)
    (u : String) (config : AppConfig) (sending : Request) (requestId : String)
    (log : List ServerExchange) (left : Nat) : Prop where
  admitted : AdmittedFor P req log rule u
  plain : isWebsocketUpgrade P (requestAfter req log) = false
  method : sending.method = (requestAfter req log).method
  query : sending.query = (requestAfter req log).query
  body : sending.body = (requestAfter req log).body
  loaded : configAfter log = some config
  attemptsLeft : attempts log + left ≤ config.server.maxRetries
  failedBefore : ∀ exchange ∈ log, isSend exchange = true →
    failedAttempt exchange = true
  sendable : attempts log = 0 ∨ Sendable P sending requestId

/-- The exchanges of attempts that have failed. -/
structure FailedAttempts (rest : List ServerExchange) : Prop where
  noHook : ∀ exchange ∈ rest, exchange.op.NoRequestHook
  noConfig : ∀ exchange ∈ rest, exchange.op ≠ .loadConfig
  failed : ∀ exchange ∈ rest, isSend exchange = true →
    failedAttempt exchange = true

theorem failedAttempts_report (u : String) :
    FailedAttempts [failureReport u] where
  noHook := List.forall_mem_singleton.mpr fun _ _ h => by cases h
  noConfig := List.forall_mem_singleton.mpr fun h => by cases h
  failed := List.forall_mem_singleton.mpr fun h => by cases h

theorem failedAttempts_attempt {attempt : ServerExchange}
    (hsend : isSend attempt = true) (hfailed : failedAttempt attempt = true)
    (u : String) : FailedAttempts [attempt, failureReport u] := by
  have hreport := failedAttempts_report u
  obtain ⟨op, reply⟩ := attempt
  cases op with
  | send sent =>
      exact {
        noHook := List.forall_mem_cons.mpr
          ⟨fun _ _ h => (by cases h), hreport.noHook⟩
        noConfig := List.forall_mem_cons.mpr
          ⟨fun h => (by cases h), hreport.noConfig⟩
        failed := List.forall_mem_cons.mpr ⟨fun _ => hfailed, hreport.failed⟩ }
  | _ => cases hsend

/-- One attempt: it could not be sent, or it is the last exchange. -/
def AttemptMade (P : Platform) (sending : Request) (requestId : String)
    (log later : List ServerExchange)
    (result : Except ProxyError Response) : Prop :=
  (later = log ∧ attempts log = 0 ∧ ∃ e, result = .error e) ∨
    ∃ attempt, later = log ++ [attempt] ∧ isSend attempt = true ∧
      Sendable P sending requestId ∧
      (failedAttempt attempt = true ↔ ∃ e, result = .error e)

section Attempts

variable {rule : CompiledRoutingRule} {u requestId : String}
  {config : AppConfig} {sending : Request} {log rest : List ServerExchange}
  {left : Nat}

theorem Trying.append
    (h : Trying P req rule u config sending requestId log
      (attempts rest + left))
    (hrest : FailedAttempts rest)
    (hsendable : attempts (log ++ rest) = 0 ∨ Sendable P sending requestId) :
    Trying P req rule u config sending requestId (log ++ rest) left where
  admitted := h.admitted.append hrest.noHook
  plain := by rw [requestAfter_append hrest.noHook, h.plain]
  method := by rw [requestAfter_append hrest.noHook, h.method]
  query := by rw [requestAfter_append hrest.noHook, h.query]
  body := by rw [requestAfter_append hrest.noHook, h.body]
  loaded := by rw [configAfter_append hrest.noConfig, h.loaded]
  attemptsLeft := by
    rw [attempts_append, Nat.add_assoc]
    exact h.attemptsLeft
  failedBefore :=
    List.forall_mem_append.mpr ⟨h.failedBefore, hrest.failed⟩
  sendable := hsendable

theorem Trying.mono {fewer : Nat} (hle : fewer ≤ left)
    (h : Trying P req rule u config sending requestId log left) :
    Trying P req rule u config sending requestId log fewer :=
  { h with attemptsLeft := (Nat.add_le_add_left hle _).trans h.attemptsLeft }

/-- After a failed attempt and its report the next one may be made. -/
theorem Trying.next
    (h : Trying P req rule u config sending requestId log (left + 1))
    {later : List ServerExchange} {e : ProxyError}
    (hmade : AttemptMade P sending requestId log later (.error e)) :
    Trying P req rule u config sending requestId
      (later ++ [failureReport u]) left := by
  rcases hmade with
    ⟨rfl, hnone, -⟩ | ⟨attempt, rfl, hsend, hsendable, hfailed⟩
  · refine (h.mono ?_).append (failedAttempts_report u) (.inl ?_)
    · exact (Nat.zero_add left).le.trans (Nat.le_succ left)
    · rw [attempts_append, hnone]
      rfl
  · have hattempt := failedAttempts_attempt hsend (hfailed.mpr ⟨e, rfl⟩) u
    have hone : attempts [attempt, failureReport u] = 1 := by
      rw [attempts, List.countP_cons_of_pos hsend]
      rfl
    rw [List.append_assoc, List.singleton_append]
    refine Trying.append ?_ hattempt (.inr hsendable)
    rwa [hone, Nat.add_comm]

theorem Trying.proxyHttp_obeys
    (h : Trying P req rule u config sending requestId log left)
    (extra : ExtraHeaders) :
    (proxyHttp P sending u (rule.rewritePath req.path) extra requestId).Obeys
      (requestMonitor P req) (AttemptMade P sending requestId log) log := by
  have hunsent {e : ProxyError} (hnot : ¬ Sendable P sending requestId) :
      AttemptMade P sending requestId log log (.error e) :=
    .inl ⟨rfl, h.sendable.resolve_right hnot, e, rfl⟩
  unfold proxyHttp
  cases hbody : sending.body with
  | error reason =>
      apply hunsent
      rintro ⟨body, id, hok, -⟩
      rw [hbody] at hok
      cases hok
  | ok body =>
      cases hid : P.headerValue requestId with
      | none =>
          apply hunsent
          rintro ⟨body, id, -, hsome⟩
          rw [hid] at hsome
          cases hsome
      | some id =>
          have hsendable : Sendable P sending requestId :=
            ⟨body, id, hbody, hid⟩
          refine obeys_perform_bind.mpr ⟨⟨rule, u, config, ?_⟩, fun reply => ?_⟩
          · exact {
              admitted := h.admitted
              plain := h.plain
              method := h.method
              url := congrArg (buildUpstreamUrl u _) h.query
              body := h.body.symm.trans hbody
              loaded := h.loaded
              attemptsLeft := Nat.le_of_add_right_le h.attemptsLeft
              failedBefore := h.failedBefore }
          · cases reply with
            | error reason =>
                exact .inr ⟨_, rfl, rfl, hsendable,
                  fun _ => ⟨_, rfl⟩, fun _ => rfl⟩
            | ok upstream =>
                dsimp only
                cases hbytes : upstream.body with
                | error reason =>
                    refine .inr ⟨_, rfl, rfl, hsendable,
                      fun _ => ⟨_, rfl⟩, fun _ => ?_⟩
                    simp [failedAttempt, hbytes]
                | ok bytes =>
                    refine .inr ⟨_, rfl, rfl, hsendable,
                      fun hfailed => ?_, ?_⟩
                    · simp [failedAttempt, hbytes] at hfailed
                    · rintro ⟨e, he⟩
                      cases he

theorem AttemptMade.admission_mem {later : List ServerExchange}
    {result : Except ProxyError Response}
    (hmade : AttemptMade P sending requestId log later result)
    (h : admission u ∈ log) : admission u ∈ later := by
  rcases hmade with ⟨rfl, -⟩ | ⟨attempt, rfl, -⟩
  · exact h
  · exact List.mem_append_left _ h

/-- The report of an attempt is permitted; what follows is judged for a
success and for a failure. -/
theorem Trying.attempt_obeys {α : Type}
    {post : List ServerExchange → α → Prop}
    (h : Trying P req rule u config sending requestId log left)
    (extra : ExtraHeaders)
    (next : Except ProxyError Response → ServerProgram α)
    (hok : ∀ later resp, admission u ∈ later →
      (next (.ok resp)).Obeys (requestMonitor P req) post later)
    (herror : ∀ later e, admission u ∈ later →
      (∀ fewer, left = fewer + 1 →
        Trying P req rule u config sending requestId later fewer) →
      (next (.error e)).Obeys (requestMonitor P req) post later) :
    ((proxyHttp P sending u (rule.rewritePath req.path) extra
      requestId).bind fun result =>
        (reportOutcome u result).bind fun _ => next result).Obeys
      (requestMonitor P req) post log := by
  rw [Program.obeys_bind]
  refine (h.proxyHttp_obeys extra).mono fun later result hmade => ?_
  have hadmitted := hmade.admission_mem h.admitted.admitted
  cases result with
  | ok resp =>
      refine obeys_perform_bind.mpr ⟨⟨hadmitted, ?_⟩, fun _ => ?_⟩
      · rcases hmade with ⟨-, -, e, he⟩ | ⟨attempt, rfl, hsend, -, hfailed⟩
        · cases he
        · refine ⟨attempt, List.getLast?_concat, hsend, ?_⟩
          rw [← Bool.not_eq_true, hfailed]
          exact fun ⟨e, he⟩ => by cases he
      · exact hok _ _ (List.mem_append_left _ hadmitted)
  | error e =>
      refine obeys_perform_bind.mpr ⟨⟨hadmitted, ?_⟩, fun _ => ?_⟩
      · rcases hmade with ⟨rfl, hnone, -⟩ | ⟨attempt, rfl, hsend, -, hfailed⟩
        · exact .inl hnone
        · exact .inr ⟨attempt, List.getLast?_concat, hsend,
            hfailed.mpr ⟨e, rfl⟩⟩
      · refine herror _ _ (List.mem_append_left _ hadmitted) ?_
        rintro fewer rfl
        exact h.next hmade

theorem attemptWithRetries_obeys
    (h : Trying P req rule u config sending requestId log left)
    (extra : ExtraHeaders) :
    (attemptWithRetries P sending u (rule.rewritePath req.path) extra
      requestId left).Obeys (requestMonitor P req)
      (fun later _ => admission u ∈ later) log := by
  induction left generalizing log with
  | zero =>
      refine h.attempt_obeys extra (fun result => .done result) ?_ ?_
      · exact fun later resp hadmitted => hadmitted
      · exact fun later e hadmitted _ => hadmitted
  | succ left ih =>
      refine h.attempt_obeys extra _ ?_ ?_
      · exact fun later resp hadmitted => hadmitted
      · exact fun later e _ htrying => ih (htrying left rfl)

theorem proxyWithRetry_obeys
    (h : Trying P req rule u config sending requestId log
      config.server.maxRetries) (extra : ExtraHeaders) :
    (proxyWithRetry P sending u (rule.rewritePath req.path) extra requestId
      config.server.maxRetries).Obeys (requestMonitor P req)
      (fun later _ => admission u ∈ later) log := by
  unfold proxyWithRetry
  split
  · refine h.attempt_obeys extra (fun result => .done result) ?_ ?_
    · exact fun later resp hadmitted => hadmitted
    · exact fun later e hadmitted _ => hadmitted
  · split
    · exact h.admitted.admitted
    · next bytes hbytes =>
        -- The rebuilt message differs in its headers only.
        refine attemptWithRetries_obeys
          (?_ : Trying P req rule u config _ requestId log _) extra
        exact {
          admitted := h.admitted
          plain := h.plain
          method := h.method
          query := h.query
          body := hbytes.symm.trans h.body
          loaded := h.loaded
          attemptsLeft := h.attemptsLeft
          failedBefore := h.failedBefore
          sendable := h.sendable.imp id fun ⟨body, id, hbody, hid⟩ =>
            ⟨body, id, hbytes.symm.trans hbody, hid⟩ }

end Attempts

/-! ## Both branches -/

section Forward

variable {rule : CompiledRoutingRule} {u requestId : String}
  {routed : Request} {log : List ServerExchange}

/-- Nothing was contacted, admitted or reported. -/
def Unforwarded (log : List ServerExchange) : Prop :=
  ∀ exchange ∈ log, exchange.op.Quiet

theorem Unforwarded.attempts_eq (h : Unforwarded log) : attempts log = 0 := by
  refine List.countP_eq_zero.mpr fun exchange hmem hsend => ?_
  have hquiet := h exchange hmem
  obtain ⟨op, reply⟩ := exchange
  cases op with
  | send sent => exact hquiet
  | _ => cases hsend

theorem forward_obeys (hadmitted : AdmittedFor P req log rule u)
    (hcurrent : requestAfter req log = routed)
    (hunsent : attempts log = 0)
    (hunconnected : ∀ url reply,
      (⟨.connectWebsocket url, reply⟩ : ServerExchange) ∉ log) :
    (forward P routed rule u (rule.rewritePath req.path) requestId).Obeys
      (requestMonitor P req) (fun later _ => admission u ∈ later) log := by
  have hnone : ∀ exchange ∈ log, isSend exchange = true →
      failedAttempt exchange = true := by
    intro exchange hmem hsend
    exact absurd hsend (List.countP_eq_zero.mp hunsent exchange hmem)
  unfold forward
  split
  · next hupgrade =>
      refine obeys_perform_bind.mpr ⟨⟨rule, u, ?_⟩, fun reply => ?_⟩
      · exact {
          admitted := hadmitted
          upgrade := hcurrent ▸ hupgrade
          url := by rw [hcurrent]
          first := hunconnected }
      · cases reply with
        | error reason => exact List.mem_append_left _ hadmitted.admitted
        | ok _ => exact List.mem_append_left _ hadmitted.admitted
  · next hplain =>
      refine obeys_perform_bind.mpr ⟨trivial, fun config => ?_⟩
      have hload : ∀ exchange ∈
          ([⟨.loadConfig, config⟩] : List ServerExchange),
          exchange.op.NoRequestHook :=
        List.forall_mem_singleton.mpr fun _ _ h => by cases h
      have hcurrent' := (requestAfter_append hload req log).trans hcurrent
      apply proxyWithRetry_obeys
      exact {
        admitted := hadmitted.append hload
        plain := by
          rw [hcurrent']
          exact Bool.eq_false_iff.mpr hplain
        method := by rw [hcurrent']
        query := by rw [hcurrent']
        body := by rw [hcurrent']
        loaded := by simp [configAfter]
        attemptsLeft := by
          rw [attempts_append, hunsent]
          simp [attempts, isSend]
        failedBefore := List.forall_mem_append.mpr
          ⟨hnone, List.forall_mem_singleton.mpr fun h => by cases h⟩
        sendable := .inl (by
          rw [attempts_append, hunsent]
          rfl) }

end Forward

end ServiceRouter
