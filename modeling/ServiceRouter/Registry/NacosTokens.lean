import ServiceRouter.Foundation.Monitor
import ServiceRouter.Registry.Nacos

/-!
# Which tokens the Nacos client sends

Lookups and the refresh task run interleaved and share the slot of the token.
A monitor follows each of them alone; together with the history of the slot it
says where every token that is sent comes from.
-/

namespace ServiceRouter

open Foundation

/-! ## One task -/

/-- The token of a login that was read, and the token loaded last since the
last store. -/
structure NacosSeen where
  login : Option String := none
  loaded : Option String := none

namespace NacosRegistry

variable (registry : NacosRegistry)

def Logs (req : RegistryRequest) : Prop :=
  ∃ auth, registry.config.auth = some auth ∧ req = registry.loginRequest auth

def Lists (token : String) (req : RegistryRequest) : Prop :=
  ∃ serviceId, req = registry.listRequest serviceId (listAuth token) ∨
    req = registry.listRequest serviceId (.bearer token)

def monitorAllowed (seen : NacosSeen) : RegistryOp → Prop
  | .send req => registry.Logs req ∨
      ∃ token, seen.loaded = some token ∧ registry.Lists token req
  | .storeToken token => seen.login = some token
  | _ => True

def monitorNext (seen : NacosSeen) : RegistryExchange → NacosSeen
  | ⟨.json .nacosLogin, .ok login⟩ =>
      { seen with login := some (NacosLoginResponse.accessToken login) }
  | ⟨.loadToken, token⟩ => { seen with loaded := some token }
  | ⟨.storeToken _, _⟩ => { seen with loaded := none }
  | _ => seen

def monitor : Monitor RegistryInterface NacosSeen where
  allowed := registry.monitorAllowed
  next := monitorNext

/-- Whatever was seen before, every question is allowed. -/
def Watched {α : Type} (p : RegistryProgram α) : Prop :=
  ∀ seen, p.Obeys registry.monitor (fun _ _ => True) seen

variable {registry}

theorem watched_bind {α β : Type} {p : RegistryProgram α}
    {f : α → RegistryProgram β} (hp : registry.Watched p)
    (hf : ∀ a, registry.Watched (f a)) : registry.Watched (p.bind f) := by
  intro seen
  rw [Program.obeys_bind]
  exact (hp seen).mono fun seen a _ => hf a seen

theorem watched_ask_bind {α : Type} {op : RegistryOp}
    {f : op.Reply → RegistryProgram α}
    (hop : ∀ seen, registry.monitorAllowed seen op)
    (hf : ∀ reply, registry.Watched (f reply)) :
    registry.Watched (op.ask.bind f) :=
  fun seen => ⟨hop seen, fun reply => hf reply _⟩

theorem watched_readBody (shape : BodyShape) :
    registry.Watched (readBody shape) := by
  refine watched_ask_bind (fun _ => trivial) fun body seen => ?_
  cases body <;> trivial

theorem watched_authenticate : registry.Watched registry.authenticate := by
  unfold authenticate
  cases hauth : registry.config.auth with
  | none => exact fun _ => trivial
  | some auth =>
      refine watched_ask_bind (fun _ => .inl ⟨auth, hauth, rfl⟩) fun sent => ?_
      cases sent with
      | error reason => exact fun _ => trivial
      | ok status =>
          dsimp only
          split
          · exact fun _ => trivial
          · intro seen
            refine ⟨trivial, fun body => ?_⟩
            cases body with
            | error reason => trivial
            | ok login => exact ⟨rfl, fun _ => trivial⟩

theorem watched_refreshTurn {auth : NacosAuth}
    (hauth : registry.config.auth = some auth) :
    registry.Watched (registry.refreshTurn auth) := by
  refine watched_ask_bind (fun _ => trivial) fun _ => ?_
  refine watched_ask_bind (fun _ => .inl ⟨auth, hauth, rfl⟩) fun sent => ?_
  cases sent with
  | error reason => exact fun _ => trivial
  | ok status =>
      intro seen
      refine ⟨trivial, fun body => ?_⟩
      cases body with
      | error reason => trivial
      | ok login => exact ⟨rfl, fun _ => trivial⟩

theorem watched_refreshTurns {auth : NacosAuth}
    (hauth : registry.config.auth = some auth) (turns : Nat) :
    registry.Watched (registry.refreshTurns auth turns) := by
  induction turns with
  | zero => exact fun _ => trivial
  | succ turns ih =>
      exact watched_bind (watched_refreshTurn hauth) fun _ => ih

theorem watched_tokenRefreshTask (turns : Nat) :
    registry.Watched (registry.tokenRefreshTask turns) := by
  unfold tokenRefreshTask
  cases hauth : registry.config.auth with
  | none =>
      exact watched_ask_bind (fun _ => trivial) fun _ _ =>
        ⟨trivial, fun _ => trivial⟩
  | some auth =>
      dsimp only
      split
      · exact fun _ => trivial
      · exact watched_ask_bind (fun _ => trivial) fun _ =>
          watched_refreshTurns hauth turns

theorem watched_parseInstances (status : StatusCode) :
    registry.Watched (parseInstances status) := by
  unfold parseInstances
  split
  · exact fun _ => trivial
  · refine watched_bind (watched_readBody _) fun body seen => ?_
    cases body <;> trivial

theorem watched_retryLookup (serviceId : String) :
    registry.Watched (registry.retryLookup serviceId) := by
  refine watched_bind watched_authenticate fun login => ?_
  cases login with
  | error e => exact fun _ => trivial
  | ok _ =>
      intro seen
      refine ⟨trivial, fun token => ?_⟩
      refine ⟨.inr ⟨token, rfl, serviceId, .inr rfl⟩, fun sent => ?_⟩
      cases sent with
      | error reason => trivial
      | ok status => exact watched_parseInstances status _

theorem watched_getHealthyInstances (serviceId : String) :
    registry.Watched (registry.getHealthyInstances serviceId) := by
  intro seen
  refine ⟨trivial, fun token => ?_⟩
  refine ⟨.inr ⟨token, rfl, serviceId, .inl rfl⟩, fun sent => ?_⟩
  have hanswered (status : StatusCode) : registry.Watched
      (if status.isUnauthorized || status.isForbidden then
        registry.retryLookup serviceId
      else parseInstances status) := by
    split
    · exact watched_retryLookup serviceId
    · exact watched_parseInstances status
  cases sent with
  | error reason => trivial
  | ok status => exact hanswered status _

/-! ## What the monitor has seen -/

theorem loaded_of_monitorNext {seen : NacosSeen} {exchange : RegistryExchange}
    {token : String} (h : (monitorNext seen exchange).loaded = some token) :
    exchange = ⟨.loadToken, token⟩ ∨ seen.loaded = some token := by
  unfold monitorNext at h
  split at h
  · exact .inr h
  · cases h
    exact .inl rfl
  · cases h
  · exact .inr h

theorem login_of_monitorNext {seen : NacosSeen} {exchange : RegistryExchange}
    {token : String} (h : (monitorNext seen exchange).login = some token) :
    (∃ login, exchange = ⟨.json .nacosLogin, .ok login⟩ ∧
      NacosLoginResponse.accessToken login = token) ∨
      seen.login = some token := by
  unfold monitorNext at h
  split at h
  · next login =>
      cases h
      exact .inl ⟨login, rfl, rfl⟩
  · exact .inr h
  · exact .inr h
  · exact .inr h

theorem loaded_of_after {seen : NacosSeen} {log : List RegistryExchange}
    {token : String}
    (h : (registry.monitor.after seen log).loaded = some token) :
    ⟨.loadToken, token⟩ ∈ log ∨ seen.loaded = some token := by
  induction log generalizing seen with
  | nil => exact .inr h
  | cons exchange log ih =>
      rcases ih h with hmem | hseen
      · exact .inl (List.mem_cons_of_mem _ hmem)
      · rcases loaded_of_monitorNext hseen with rfl | hseen
        · exact .inl (by simp)
        · exact .inr hseen

theorem login_of_after {seen : NacosSeen} {log : List RegistryExchange}
    {token : String}
    (h : (registry.monitor.after seen log).login = some token) :
    (∃ login, ⟨.json .nacosLogin, .ok login⟩ ∈ log ∧
      NacosLoginResponse.accessToken login = token) ∨
      seen.login = some token := by
  induction log generalizing seen with
  | nil => exact .inr h
  | cons exchange log ih =>
      rcases ih h with ⟨login, hmem, htoken⟩ | hseen
      · exact .inl ⟨login, List.mem_cons_of_mem _ hmem, htoken⟩
      · rcases login_of_monitorNext hseen with ⟨login, rfl, htoken⟩ | hseen
        · exact .inl ⟨login, by simp, htoken⟩
        · exact .inr hseen

end NacosRegistry

/-! ## All tasks of a client -/

inductive NacosTask where
  | lookup (serviceId : String)
  | refresh (turns : Nat)

def NacosRegistry.task (registry : NacosRegistry) : NacosTask →
    RegistryProgram (Option (Except RegistryError (List ServiceInstance)))
  | .lookup serviceId => do
      let found ← registry.getHealthyInstances serviceId
      return some found
  | .refresh turns => do
      registry.tokenRefreshTask turns
      return none

def tokenAccess (event : RegistryEvent) : CellAccess String :=
  match event.exchange with
  | ⟨.loadToken, token⟩ => .read token
  | ⟨.storeToken token, _⟩ => .write token
  | _ => .other

/-- Any number of lookups and refresh tasks, interleaved over one slot. -/
structure NacosRun (registry : NacosRegistry) (tasks : Nat → NacosTask)
    (initial : String) (events : List RegistryEvent) : Prop where
  interleaves : Interleaves (fun id => registry.task (tasks id)) events
  slot : CellAnswers tokenAccess initial events

def IssuesToken (event : RegistryEvent) (token : String) : Prop :=
  ∃ login, event.exchange = ⟨.json .nacosLogin, .ok login⟩ ∧
    NacosLoginResponse.accessToken login = token

def StoresToken (event : RegistryEvent) (token : String) : Prop :=
  event.exchange.op = .storeToken token

def SendsRequest (event : RegistryEvent) (req : RegistryRequest) : Prop :=
  event.exchange.op = .send req

theorem tokenAccess_eq_read {event : RegistryEvent} {token : String}
    (h : event.exchange = ⟨.loadToken, token⟩) :
    tokenAccess event = .read token := by
  rw [tokenAccess, h]

theorem tokenAccess_eq_write {event : RegistryEvent} {token : String} :
    tokenAccess event = .write token ↔ StoresToken event token := by
  obtain ⟨clock, program, op, reply⟩ := event
  cases op with
  | storeToken stored =>
      exact (CellAccess.write.injEq stored token).to_iff.trans
        (RegistryOp.storeToken.injEq stored token).symm.to_iff
  | _ => simp [tokenAccess, StoresToken]

namespace NacosRegistry

variable {registry : NacosRegistry}

theorem watched_task (task : NacosTask) :
    registry.Watched (registry.task task) := by
  cases task with
  | lookup serviceId =>
      exact watched_bind (watched_getHealthyInstances serviceId)
        fun _ _ => trivial
  | refresh turns =>
      exact watched_bind (watched_tokenRefreshTask turns) fun _ _ => trivial

end NacosRegistry

namespace NacosRun

variable {registry : NacosRegistry} {tasks : Nat → NacosTask}
  {initial : String} {events before after : List RegistryEvent}
  {event : RegistryEvent} {token : String}

/-- What an event asks is allowed after its task's exchanges before it. -/
theorem allowed (hrun : NacosRun registry tasks initial events)
    (hevents : events = before ++ event :: after) :
    registry.monitorAllowed (registry.monitor.after {}
      (exchangesOf event.program before)) event.exchange.op := by
  obtain ⟨q, hq⟩ := hrun.interleaves event.program
  have haccepts := (NacosRegistry.watched_task (tasks event.program) {}).of_runs
    hq |>.1
  have hlog : exchangesOf event.program events =
      exchangesOf event.program before ++
        event.exchange :: exchangesOf event.program after := by
    rw [hevents, exchangesOf_append]
    simp [exchangesOf]
  rw [hlog] at haccepts
  exact haccepts.allowed_at

/-- A token that is stored was issued by a login before. -/
theorem issued_of_stored (hrun : NacosRun registry tasks initial events)
    (hevents : events = before ++ event :: after)
    (hstores : StoresToken event token) :
    ∃ login ∈ before, IssuesToken login token := by
  have hallowed := hrun.allowed hevents
  rw [StoresToken] at hstores
  rw [hstores] at hallowed
  rcases NacosRegistry.login_of_after hallowed with
    ⟨login, hmem, htoken⟩ | hnone
  · obtain ⟨issuer, hissuer, -, hexchange⟩ := mem_exchangesOf.mp hmem
    exact ⟨issuer, hissuer, login, hexchange, htoken⟩
  · cases hnone

/-- The token of a list request was loaded by the same task before. -/
theorem loaded_of_bearer (hrun : NacosRun registry tasks initial events)
    (hevents : events = before ++ event :: after) {req : RegistryRequest}
    (hsends : SendsRequest event req) (hbearer : req.auth = .bearer token) :
    (registry.monitor.after {}
      (exchangesOf event.program before)).loaded = some token := by
  have hallowed := hrun.allowed hevents
  rw [SendsRequest] at hsends
  rw [hsends] at hallowed
  rcases hallowed with ⟨auth, -, rfl⟩ | ⟨loaded, hloaded, serviceId, hlist⟩
  · cases hbearer
  · rw [hloaded]
    rcases hlist with rfl | rfl
    · simp only [NacosRegistry.listRequest, NacosRegistry.listAuth] at hbearer
      split at hbearer <;> cases hbearer
      rfl
    · cases hbearer
      rfl

/-- A token read from the slot is the first one or was issued before. -/
theorem issued_of_loaded (hrun : NacosRun registry tasks initial events)
    (hevents : events = before ++ event :: after)
    (hloads : event.exchange = ⟨.loadToken, token⟩) :
    token = initial ∨ ∃ login ∈ before, IssuesToken login token := by
  have hslot := hrun.slot
  rw [hevents] at hslot
  have htoken := hslot.read_eq (tokenAccess_eq_read hloads)
  have hwritten : cellAfter tokenAccess initial before = initial ∨
      ∃ writer ∈ before, tokenAccess writer =
        .write (cellAfter tokenAccess initial before) :=
    cellAfter_eq_or_written initial before
  rcases hwritten with hinitial | ⟨writer, hwriter, hwrite⟩
  · exact .inl (htoken.trans hinitial)
  · rw [← htoken] at hwrite
    obtain ⟨first, between, rfl⟩ := List.append_of_mem hwriter
    rw [List.append_assoc, List.cons_append] at hevents
    obtain ⟨login, hlogin, hissues⟩ := hrun.issued_of_stored hevents
      (tokenAccess_eq_write.mp hwrite)
    exact .inr ⟨login, List.mem_append_left _ hlogin, hissues⟩

theorem issued_of_bearer (hrun : NacosRun registry tasks initial events)
    (hevents : events = before ++ event :: after) {req : RegistryRequest}
    (hsends : SendsRequest event req) (hbearer : req.auth = .bearer token) :
    token = initial ∨ ∃ login ∈ before, IssuesToken login token := by
  have hloaded := hrun.loaded_of_bearer hevents hsends hbearer
  rcases NacosRegistry.loaded_of_after hloaded with hmem | hnone
  · obtain ⟨loader, hloader, -, hloads⟩ := mem_exchangesOf.mp hmem
    obtain ⟨first, between, rfl⟩ := List.append_of_mem hloader
    rw [List.append_assoc, List.cons_append] at hevents
    rcases hrun.issued_of_loaded hevents hloads with h | ⟨login, hlogin, h⟩
    · exact .inl h
    · exact .inr ⟨login, List.mem_append_left _ hlogin, h⟩
  · cases hnone

/-- What a task has loaded since it stored a token, it has loaded after that
store. -/
theorem loader_of_bearer (hrun : NacosRun registry tasks initial events)
    {writer sender : RegistryEvent} {between : List RegistryEvent}
    {written : String}
    (hevents : events = before ++ writer :: between ++ sender :: after)
    (hsame : writer.program = sender.program)
    (hstores : StoresToken writer written) {req : RegistryRequest}
    (hsends : SendsRequest sender req) (hbearer : req.auth = .bearer token) :
    ∃ loader ∈ between, loader.exchange = ⟨.loadToken, token⟩ := by
  have hloaded := hrun.loaded_of_bearer hevents hsends hbearer
  have hown : exchangesOf sender.program (before ++ writer :: between) =
      exchangesOf sender.program before ++
        writer.exchange :: exchangesOf sender.program between := by
    rw [exchangesOf_append]
    simp [exchangesOf, hsame]
  rw [hown, Monitor.after_append, Monitor.after_cons] at hloaded
  -- The store makes the monitor forget what was loaded before.
  rcases NacosRegistry.loaded_of_after hloaded with hmem | hforgotten
  · obtain ⟨loader, hloader, -, hloads⟩ := mem_exchangesOf.mp hmem
    exact ⟨loader, hloader, hloads⟩
  · obtain ⟨clock, program, op, reply⟩ := writer
    rw [StoresToken] at hstores
    subst hstores
    cases hforgotten

theorem stored_of_bearer (hrun : NacosRun registry tasks initial events)
    {writer sender : RegistryEvent} {between : List RegistryEvent}
    {written : String}
    (hevents : events = before ++ writer :: between ++ sender :: after)
    (hsame : writer.program = sender.program)
    (hstores : StoresToken writer written) {req : RegistryRequest}
    (hsends : SendsRequest sender req) (hbearer : req.auth = .bearer token) :
    token = written ∨ ∃ event ∈ between, StoresToken event token := by
  obtain ⟨loader, hloader, hloads⟩ :=
    hrun.loader_of_bearer hevents hsame hstores hsends hbearer
  obtain ⟨first, rest, rfl⟩ := List.append_of_mem hloader
  have hslot := hrun.slot
  rw [hevents, show before ++ writer :: (first ++ loader :: rest) ++
    sender :: after = before ++ writer :: first ++
      loader :: (rest ++ sender :: after) by simp] at hslot
  rcases hslot.read_after_write (tokenAccess_eq_write.mpr hstores)
    (tokenAccess_eq_read hloads) with h | ⟨event, hevent, hwrite⟩
  · exact .inl h
  · exact .inr ⟨event, List.mem_append_left _ hevent,
      tokenAccess_eq_write.mp hwrite⟩

end NacosRun

/--
Whatever the interleaving, a bearer token is the first one of the slot or was
issued by a login before; after a task has stored a token, it sends that one or
one that was stored since.  Every request is a login with the configured
credentials or a list request, which carries no form.
-/
theorem nacosRun_tokens {registry : NacosRegistry} {tasks : Nat → NacosTask}
    {initial : String} {events : List RegistryEvent}
    (hrun : NacosRun registry tasks initial events) :
    (∀ before event after req token,
      events = before ++ event :: after → SendsRequest event req →
      req.auth = .bearer token →
      token = initial ∨ ∃ login ∈ before, IssuesToken login token) ∧
    (∀ before writer between sender after written req token,
      events = before ++ writer :: between ++ sender :: after →
      writer.program = sender.program → StoresToken writer written →
      SendsRequest sender req → req.auth = .bearer token →
      token = written ∨ ∃ event ∈ between, StoresToken event token) ∧
    ∀ event ∈ events, ∀ req, SendsRequest event req →
      (∃ auth, registry.config.auth = some auth ∧
        req = registry.loginRequest auth) ∨
      req.method = .get ∧ req.form = [] ∧
        ∃ serviceId, req.url = registry.listUrl serviceId := by
  refine ⟨?_, ?_, ?_⟩
  · intro before event after req token hevents hsends hbearer
    exact hrun.issued_of_bearer hevents hsends hbearer
  · intro before writer between sender after written req token hevents hsame
      hstores hsends hbearer
    exact hrun.stored_of_bearer hevents hsame hstores hsends hbearer
  · intro event hevent req hsends
    obtain ⟨before, after, hevents⟩ := List.append_of_mem hevent
    have hallowed := hrun.allowed hevents
    rw [SendsRequest] at hsends
    rw [hsends] at hallowed
    rcases hallowed with hlogs | ⟨token, -, serviceId, rfl | rfl⟩
    · exact .inl hlogs
    · exact .inr ⟨rfl, rfl, serviceId, rfl⟩
    · exact .inr ⟨rfl, rfl, serviceId, rfl⟩

/-! ## A refresh overtaken by a denied lookup -/

def guardedNacos : NacosRegistry where
  config :=
    { serverAddr := "http://nacos"
      namespace_ := none
      group := none
      auth := some { username := "user", password := "secret" } }

def guardedTasks : Nat → NacosTask
  | 0 => .lookup "orders"
  | _ => .refresh 1

def lookupDenied : List RegistryExchange := [
  ⟨.loadToken, "stale"⟩,
  ⟨.send (guardedNacos.listRequest "orders" (NacosRegistry.listAuth "stale")),
    .ok ⟨401, "401 Unauthorized"⟩⟩,
  ⟨.send (guardedNacos.loginRequest ⟨"user", "secret", 1800⟩),
    .ok ⟨200, "200 OK"⟩⟩,
  ⟨.json .nacosLogin, .ok (⟨"second", 1800⟩ : NacosLoginResponse)⟩,
  ⟨.storeToken "second", ()⟩]

def refreshAnswered : List RegistryExchange := [
  ⟨.tick, ()⟩,
  ⟨.tick, ()⟩,
  ⟨.send (guardedNacos.loginRequest ⟨"user", "secret", 1800⟩),
    .ok ⟨200, "200 OK"⟩⟩,
  ⟨.json .nacosLogin, .ok (⟨"first", 1800⟩ : NacosLoginResponse)⟩]

def storeFirst : RegistryExchange := ⟨.storeToken "first", ()⟩

/-- The retry of the lookup, with the token the refresh has stored. -/
def lookupRetried : List RegistryExchange := [
  ⟨.loadToken, "first"⟩,
  ⟨.send (guardedNacos.listRequest "orders" (.bearer "first")),
    .error "connection reset"⟩]

def refreshRace : List RegistryEvent :=
  eventsAt 0 1 refreshAnswered ++ eventsAt 0 0 lookupDenied ++
    eventsAt 0 1 [storeFirst] ++ eventsAt 0 0 lookupRetried

private theorem refreshRace_run :
    NacosRun guardedNacos guardedTasks "stale" refreshRace where
  interleaves id := by
    match id with
    | 0 =>
        exact ⟨_, .step _ (.step _ (.step _ (.step _ (.step _
          (.step _ (.step _ (.refl _)))))))⟩
    | 1 =>
        exact ⟨_, .step _ (.step _ (.step _ (.step _ (.step _ (.refl _)))))⟩
    | id + 2 =>
        have hnone : exchangesOf (id + 2) refreshRace = [] := by
          simp [refreshRace, exchangesOf_eventsAt]
        rw [hnone]
        exact ⟨_, .refl _⟩
  slot := by
    simp [refreshRace, refreshAnswered, lookupDenied, lookupRetried,
      storeFirst, eventsAt, CellAnswers, tokenAccess, cellAfterEvent]

/-- The retry sends the token of the refresh instead of its own. -/
theorem nacosRun_tokens_refreshRace :
    ∃ login ∈ refreshRace, IssuesToken login "first" := by
  have hsent := (nacosRun_tokens refreshRace_run).1
    (refreshRace.dropLast) ⟨0, 0, lookupRetried.getLast (by decide)⟩ []
    (guardedNacos.listRequest "orders" (.bearer "first")) "first" rfl rfl rfl
  rcases hsent with hstale | ⟨login, hlogin, hissues⟩
  · exact absurd hstale (by decide)
  · exact ⟨login, List.dropLast_subset _ hlogin, hissues⟩

end ServiceRouter
