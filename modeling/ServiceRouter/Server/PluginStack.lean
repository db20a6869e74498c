import ServiceRouter.Server.BreakerFeedback
import ServiceRouter.Server.FailureCounts

/-!
# The plugin stack

As in a stack of middleware, the plugins that let a request through see its
response in the reverse order.  A response the upstream gave passes through all
of them, the response of a plugin that answers itself through none.
-/

namespace ServiceRouter

open Foundation

/-! ## What the hooks of one request did -/

/-- The place of a plugin that let the request through. -/
def continuedAt (exchange : ServerExchange) : Option Nat :=
  match exchange with
  | ⟨.onRequest position _, .ok (.continue_ _)⟩ => some position
  | _ => none

/-- The place of a plugin that answered the request itself. -/
def respondedAt (exchange : ServerExchange) : Option Nat :=
  match exchange with
  | ⟨.onRequest position _, .ok (.respond _)⟩ => some position
  | _ => none

def isOnResponse (exchange : ServerExchange) : Bool :=
  match exchange.op with
  | .onResponse _ _ => true
  | _ => false

/-- The plugins that let the request through, in the order they ran. -/
def continued (log : List ServerExchange) : List Nat :=
  log.filterMap continuedAt

def responded (log : List ServerExchange) : List Nat :=
  log.filterMap respondedAt

/-- The response hooks at these places, each given what the one before it
returned. -/
inductive Passes : List Nat → Response → Response → List ServerExchange → Prop
  | done (resp : Response) : Passes [] resp resp []
  | next {position : Nat} {rest : List Nat} {resp changed out : Response}
      {log : List ServerExchange} (h : Passes rest changed out log) :
      Passes (position :: rest) resp out
        (⟨.onResponse position resp, .ok changed⟩ :: log)

/-- The response returned is one that passed through the plugins that let the
request through, the last one first; only the request id is set after that. -/
def StackDiscipline (P : Platform) (log : List ServerExchange)
    (resp : Response) : Prop :=
  ∃ inner out, Passes (continued log).reverse inner out
      (log.filter isOnResponse) ∧
    (resp = out ∨ ∃ requestId, resp = echoRequestId P requestId out)

/-- Only the first plugin of the chain answers requests itself. -/
def OnlyFirstResponds (log : List ServerExchange) : Prop :=
  ∀ position ∈ responded log, position = 0

@[simp] theorem continued_append (first second : List ServerExchange) :
    continued (first ++ second) = continued first ++ continued second :=
  List.filterMap_append

@[simp] theorem responded_append (first second : List ServerExchange) :
    responded (first ++ second) = responded first ++ responded second :=
  List.filterMap_append

/-! ## Hooks in a log -/

/-- What a log without hooks shows of them. -/
structure HookFree (log : List ServerExchange) : Prop where
  continued : continued log = []
  responded : responded log = []
  onResponse : log.filter isOnResponse = []

theorem hookFree_of_noHook {log : List ServerExchange}
    (h : ∀ exchange ∈ log, ServerOp.NoHook exchange.op) : HookFree log := by
  constructor
  · apply List.filterMap_eq_nil_iff.mpr
    intro exchange hexchange
    have hop := h exchange hexchange
    obtain ⟨op, reply⟩ := exchange
    cases op <;> first | exact hop.elim | rfl
  · apply List.filterMap_eq_nil_iff.mpr
    intro exchange hexchange
    have hop := h exchange hexchange
    obtain ⟨op, reply⟩ := exchange
    cases op <;> first | exact hop.elim | rfl
  · apply List.filter_eq_nil_iff.mpr
    intro exchange hexchange
    have hop := h exchange hexchange
    obtain ⟨op, reply⟩ := exchange
    cases op <;> first | exact hop.elim | exact Bool.false_ne_true

/-- The request hooks of a request that is let through. -/
theorem RequestHooks.continued_of_continue
    {entries : List (String × Nat)} {req routed : Request}
    {log : List ServerExchange}
    (h : RequestHooks entries req log (.ok (.continue_ routed))) :
    continued log = entries.map Prod.snd ∧ responded log = [] ∧
      log.filter isOnResponse = [] := by
  generalize hresult : (Except.ok (.continue_ routed) :
    Except String RequestAction) = result at h
  induction h with
  | done req => exact ⟨rfl, rfl, rfl⟩
  | @continue_ name position rest req next log result _ ih =>
      obtain ⟨hcontinued, hresponded, hresponse⟩ := ih hresult
      refine ⟨?_, hresponded, hresponse⟩
      exact congrArg (List.cons position) hcontinued
  | respond name position rest req resp => cases hresult
  | error name position rest req reason => cases hresult
  | panicked name position rest req => cases hresult

/-- The request hooks up to the plugin that answers. -/
theorem RequestHooks.continued_of_respond
    {entries : List (String × Nat)} {req : Request} {resp : Response}
    {log : List ServerExchange}
    (h : RequestHooks entries req log (.ok (.respond resp))) :
    ∃ before entry after, entries = before ++ entry :: after ∧
      continued log = before.map Prod.snd ∧ responded log = [entry.2] ∧
      log.filter isOnResponse = [] := by
  generalize hresult : (Except.ok (.respond resp) :
    Except String RequestAction) = result at h
  induction h with
  | done req => cases hresult
  | @continue_ name position rest req next log result _ ih =>
      obtain ⟨before, entry, after, rfl, hcontinued, hresponded,
        hresponse⟩ := ih hresult
      refine ⟨(name, position) :: before, entry, after, rfl, ?_,
        hresponded, hresponse⟩
      exact congrArg (List.cons position) hcontinued
  | respond name position rest req resp =>
      exact ⟨[], (name, position), rest, rfl, rfl, rfl, rfl⟩
  | error name position rest req reason => cases hresult
  | panicked name position rest req => cases hresult

theorem ResponseHooks.passes {entries : List (String × Nat)}
    {resp out : Response} {log : List ServerExchange}
    (h : ResponseHooks entries resp log (.ok out)) :
    Passes (entries.map Prod.snd) resp out log ∧ continued log = [] ∧
      responded log = [] ∧ log.filter isOnResponse = log := by
  generalize hresult : (Except.ok out : Except String Response) = result at h
  induction h with
  | done resp =>
      cases hresult
      exact ⟨.done _, rfl, rfl, rfl⟩
  | next _ ih =>
      obtain ⟨hpasses, hcontinued, hresponded, hresponse⟩ := ih hresult
      refine ⟨.next hpasses, hcontinued, hresponded, ?_⟩
      exact congrArg (List.cons _) hresponse
  | error name position rest resp reason => cases hresult
  | panicked name position rest resp => cases hresult

theorem Passes.positions_eq_nil {positions : List Nat}
    {resp out : Response} (h : Passes positions resp out []) :
    positions = [] := by
  cases h
  rfl

/-! ## The stack -/

section Stack

variable {P : Platform} {plugins : List String} {req : Request}
  {log : List ServerExchange}

theorem hookFree_requestId {idLog : List ServerExchange} {requestId : String}
    (h : (requestIdOf P req).Returns idLog requestId) : HookFree idLog :=
  hookFree_of_noHook
    (Program.OnlyAsks.of_runs (requestIdOf_onlyAsks trivial P req) h)

/-- A plugin answers at the place where it stands in the chain. -/
theorem snd_of_zipIdx_eq {before after : List (String × Nat)}
    {entry : String × Nat}
    (h : plugins.zipIdx = before ++ entry :: after) :
    entry.2 = before.length := by
  have hentry : plugins.zipIdx[before.length]? = some entry := by
    rw [h, List.getElem?_append_right (Nat.le_refl _), Nat.sub_self]
    rfl
  rw [List.getElem?_zipIdx] at hentry
  obtain ⟨name, -, hname⟩ := Option.map_eq_some_iff.mp hentry
  rw [← hname]
  exact Nat.zero_add _

/-- The response of a plugin returns at once. -/
theorem stack_of_shortCircuit {idLog hookLog : List ServerExchange}
    {requestId : String} {resp : Response}
    (hid : (requestIdOf P req).Returns idLog requestId)
    (hhooks : RequestHooks plugins.zipIdx req hookLog (.ok (.respond resp))) :
    StackDiscipline P (idLog ++ hookLog) resp ↔
      OnlyFirstResponds (idLog ++ hookLog) := by
  have hfree := hookFree_requestId hid
  obtain ⟨before, entry, after, hentries, hcontinued, hresponded,
    hresponse⟩ := hhooks.continued_of_respond
  have hplace := snd_of_zipIdx_eq hentries
  unfold StackDiscipline OnlyFirstResponds
  rw [continued_append, responded_append, List.filter_append,
    hfree.continued, hfree.responded, hfree.onResponse, hcontinued,
    hresponded, hresponse, List.nil_append, List.nil_append]
  constructor
  · rintro ⟨inner, out, hpasses, -⟩ position hposition
    rw [List.mem_singleton.mp hposition, hplace]
    have hnil := hpasses.positions_eq_nil
    simpa using hnil
  · intro hfirst
    have hzero := hfirst _ (List.mem_singleton.mpr rfl)
    rw [hplace, List.length_eq_zero_iff] at hzero
    subst hzero
    exact ⟨resp, resp, .done resp, .inl rfl⟩

/-- Between the request hooks and the response hooks no hook runs. -/
theorem hookFree_forwarded {baseLog forwardLog : List ServerExchange}
    {rule : CompiledRoutingRule} {path requestId u : String}
    {routed : Request} {res : Response} (router : RouterSnapshot)
    (hbase : (upstreamBaseOf rule path).Returns baseLog (.ok u))
    (hforward : (forward P routed rule u (rule.rewritePath path)
      requestId).Returns forwardLog (.ok res)) :
    HookFree (⟨.loadRouter, router⟩ :: ⟨.recordRouteHit rule.id, ()⟩ ::
      (baseLog ++ ⟨.breakerAllow u, true⟩ :: forwardLog)) := by
  apply hookFree_of_noHook
  intro exchange hexchange
  simp only [List.mem_cons, List.mem_append] at hexchange
  rcases hexchange with rfl | rfl | hmem | rfl | hmem
  · trivial
  · trivial
  · exact (upstreamBaseOf_noHook rule path).of_runs hbase _ hmem
  · trivial
  · exact (forward_onlyAsks forwarding_noHook ..).of_runs hforward _ hmem

/-- The response of an upstream passes through the whole stack. -/
theorem stack_of_routed {idLog hookLog routedLog : List ServerExchange}
    {requestId : String} {routed : Request} {router : RouterSnapshot}
    {rule : CompiledRoutingRule} {resp : Response}
    (hid : (requestIdOf P req).Returns idLog requestId)
    (hhooks : RequestHooks plugins.zipIdx req hookLog
      (.ok (.continue_ routed)))
    (hrun : RoutedRun P plugins req.path routed rule requestId routedLog
      (.ok resp)) :
    StackDiscipline P
        (idLog ++ (hookLog ++ ⟨.loadRouter, router⟩ :: routedLog)) resp ∧
      OnlyFirstResponds
        (idLog ++ (hookLog ++ ⟨.loadRouter, router⟩ :: routedLog)) := by
  have hfree := hookFree_requestId hid
  obtain ⟨hcontinued, hresponded, hresponse⟩ := hhooks.continued_of_continue
  cases hrun with
  | @finished baseLog forwardLog responseLog u res out hbase hforward
      hpass =>
      obtain ⟨hpasses, hnone, hanswered, hall⟩ := hpass.passes
      have hquiet := hookFree_forwarded router hbase hforward
      have hlog : idLog ++ (hookLog ++ ⟨.loadRouter, router⟩ ::
            ⟨.recordRouteHit rule.id, ()⟩ :: (baseLog ++
              ⟨.breakerAllow u, true⟩ :: (forwardLog ++ responseLog))) =
          idLog ++ (hookLog ++ ((⟨.loadRouter, router⟩ ::
            ⟨.recordRouteHit rule.id, ()⟩ ::
              (baseLog ++ ⟨.breakerAllow u, true⟩ :: forwardLog)) ++
                responseLog)) := by
        simp
      unfold StackDiscipline OnlyFirstResponds
      rw [hlog]
      simp only [continued_append, responded_append, List.filter_append,
        hfree.continued, hfree.responded, hfree.onResponse, hcontinued,
        hresponded, hresponse, hquiet.continued, hquiet.responded,
        hquiet.onResponse, hnone, hanswered, hall, List.nil_append,
        List.append_nil]
      constructor
      · refine ⟨res, out, ?_, .inr ⟨requestId, rfl⟩⟩
        rwa [← List.map_reverse]
      · intro position hposition
        cases hposition

end Stack

/-- A response returned by the handler has passed through the stack exactly if
no plugin behind the first one answered the request itself. -/
theorem plugin_stack_iff {P : Platform} {plugins : List String}
    {req : Request} {log : List ServerExchange} {resp : Response}
    (h : (proxyHandler P plugins req).Returns log (.ok resp)) :
    StackDiscipline P log resp ↔ OnlyFirstResponds log := by
  cases proxyHandler_returns h with
  | shortCircuited hid hhooks => exact stack_of_shortCircuit hid hhooks
  | routed hid hhooks hrule hrun =>
      obtain ⟨hstack, hfirst⟩ := stack_of_routed hid hhooks hrun
      exact ⟨fun _ => hfirst, fun _ => hstack⟩

/-! ## A traced request -/

def emptyAnswer : Response where
  status := 200
  headers := ⟨[]⟩
  body := []

def stampedAnswer : Response :=
  { emptyAnswer with headers := ⟨[(secWebsocketAccept, .fromStatic "s")]⟩ }

def tracedAnswer : Response :=
  { emptyAnswer with
    headers := ⟨[(secWebsocketAccept, .fromStatic "s"),
      (secWebsocketAccept, .fromStatic "t")]⟩ }

/-- The request passes the first plugin first, the response the second. -/
def tracedLog : List ServerExchange :=
  [⟨.newUuid, "id"⟩, ⟨.onRequest 0 plainRequest, .ok (.continue_ plainRequest)⟩,
    ⟨.onRequest 1 plainRequest, .ok (.continue_ plainRequest)⟩,
    ⟨.loadRouter, ⟨[rootRule]⟩⟩, ⟨.recordRouteHit "root", ()⟩,
    admission "http://up", ⟨.loadConfig, {}⟩,
    ⟨.send {
      method := "GET"
      url := buildUpstreamUrl "http://up" (rootRule.rewritePath "/") none
      headers := forwardedHeaders .plain plainRequest.headers
        (.fromStatic "id")
      body := [] }, .ok ⟨200, ⟨[]⟩, .ok []⟩⟩,
    ⟨.breakerRecordSuccess "http://up", ()⟩,
    ⟨.onResponse 1 emptyAnswer, .ok stampedAnswer⟩,
    ⟨.onResponse 0 stampedAnswer, .ok tracedAnswer⟩]

theorem traced_returns :
    (proxyHandler .plain ["trace", "stamp"] plainRequest).Returns tracedLog
      (.ok (echoRequestId .plain "id" tracedAnswer)) :=
  .step _ (.step _ (.step _ (.step _ (.step _ (.step _ (.step _ (.step _
    (.step _ (.step _ (.step _ (.refl _)))))))))))

theorem plugin_stack_traced :
    StackDiscipline .plain tracedLog
      (echoRequestId .plain "id" tracedAnswer) := by
  apply (plugin_stack_iff traced_returns).mpr
  intro position hposition
  cases hposition

/-! ## A request that is traced and then blocked -/

def forbidden : Response where
  status := 403
  headers := ⟨[]⟩
  body := []

def blockedLog : List ServerExchange :=
  [⟨.newUuid, "id"⟩, ⟨.onRequest 0 plainRequest, .ok (.continue_ plainRequest)⟩,
    ⟨.onRequest 1 plainRequest, .ok (.respond forbidden)⟩]

/-- The first plugin let the request through and never sees the response. -/
theorem plugin_stack_skipped :
    (proxyHandler .plain ["trace", "blocker"] plainRequest).Returns
        blockedLog (.ok forbidden) ∧
      ¬ StackDiscipline .plain blockedLog forbidden := by
  constructor
  · exact .step _ (.step _ (.step _ (.refl _)))
  · rintro ⟨inner, out, hpasses, -⟩
    have hnil : (continued blockedLog).reverse = [] :=
      hpasses.positions_eq_nil
    cases hnil

end ServiceRouter
