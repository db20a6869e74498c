import ServiceRouter.Foundation.KeepFirst
import ServiceRouter.Server.HealthFiltering
import ServiceRouter.Server.HealthHysteresis

/-!
# What a probe round does

A round resolves the services of the routes in order and sends one request to
every address they list, at the place where it is listed first.  Enough rounds
in which an instance fails keep it from being selected.
-/

namespace ServiceRouter

open Foundation

/-! ## The parts of a log -/

def probeUrl (config : HealthCheckConfig) (inst : ServiceInstance) : String :=
  s!"http://{inst.host}:{inst.port}{config.path}"

def listedBy (exchange : ProbeExchange) : List ServiceInstance :=
  match exchange with
  | ⟨.resolve _, .ok instances⟩ => instances
  | _ => []

/-- The instances that the resolved services list, in order. -/
def listedIn (log : List ProbeExchange) : List ServiceInstance :=
  log.flatMap listedBy

def resolvedBy (exchange : ProbeExchange) : Option String :=
  match exchange.op with
  | .resolve svcId => some svcId
  | _ => none

def requestOf (exchange : ProbeExchange) :
    Option (String × Except String Nat) :=
  match exchange with
  | ⟨.get url, answer⟩ => some (url, answer)
  | _ => none

/-- The requests of a log with their answers. -/
def probesOf (log : List ProbeExchange) :
    List (String × Except String Nat) :=
  log.filterMap requestOf

def recording (config : HealthCheckConfig) (key : String)
    (answer : Except String Nat) : ProbeExchange :=
  if answersSuccess answer then ⟨.recordSuccess key config.healthyThreshold, ()⟩
  else ⟨.recordFailure key config.unhealthyThreshold, ()⟩

/-- One request to each of the instances, whose answer is then recorded. -/
structure Probed (config : HealthCheckConfig)
    (instances : List ServiceInstance) (log : List ProbeExchange)
    (answers : List (Except String Nat)) : Prop where
  length : answers.length = instances.length
  probes : probesOf log = (instances.map (probeUrl config)).zip answers
  results : resultsOf log =
    (instances.map ServiceInstance.hostPort).zip (answers.map answersSuccess)

namespace Probed

variable {config : HealthCheckConfig}

theorem nil : Probed config [] [] [] := ⟨rfl, rfl, rfl⟩

theorem append {first second : List ServiceInstance}
    {log log' : List ProbeExchange} {answers answers' : List (Except String Nat)}
    (h : Probed config first log answers)
    (h' : Probed config second log' answers') :
    Probed config (first ++ second) (log ++ log') (answers ++ answers') where
  length := by simp [h.length, h'.length]
  probes := by
    have hlength : (first.map (probeUrl config)).length = answers.length := by
      simp [h.length]
    rw [probesOf, List.filterMap_append, List.map_append,
      List.zip_append hlength, ← h.probes, ← h'.probes]
    rfl
  results := by
    have hlength : (first.map ServiceInstance.hostPort).length =
        (answers.map answersSuccess).length := by
      simp [h.length]
    rw [resultsOf, List.filterMap_append, List.map_append, List.map_append,
      List.zip_append hlength, ← h.results, ← h'.results]
    rfl

/-- An exchange that is neither a request nor a recording. -/
theorem cons_quiet {instances : List ServiceInstance}
    {log : List ProbeExchange} {answers : List (Except String Nat)}
    (h : Probed config instances log answers) {exchange : ProbeExchange}
    (hrequest : requestOf exchange = none)
    (hresult : resultOf exchange = none) :
    Probed config instances (exchange :: log) answers where
  length := h.length
  probes := (List.filterMap_cons_none hrequest).trans h.probes
  results := (List.filterMap_cons_none hresult).trans h.results

/-- The two exchanges about one instance. -/
theorem single (inst : ServiceInstance) (answer : Except String Nat) :
    Probed config [inst] [⟨.get (probeUrl config inst), answer⟩,
      recording config inst.hostPort answer] [answer] := by
  refine ⟨rfl, ?_, ?_⟩
  · unfold recording
    cases answersSuccess answer <;> rfl
  · rw [List.map_singleton, List.map_singleton]
    unfold recording
    cases answersSuccess answer <;> rfl

end Probed

/-! ## The loops -/

section Loops

variable {config : HealthCheckConfig}

theorem returns_probe_bind {α : Type} {op : ProbeOp}
    {f : op.Reply → ProbeProgram α} {log : List ProbeExchange} {a : α} :
    ((probe op).bind f).Returns log a ↔
      ∃ (reply : op.Reply) (rest : List ProbeExchange),
        log = ⟨op, reply⟩ :: rest ∧ (f reply).Returns rest a :=
  Program.returns_call

theorem returns_recording {α : Type} {key : String}
    {answer : Except String Nat} {next : ProbeProgram α}
    {log : List ProbeExchange} {a : α}
    (h : Program.Returns (if answersSuccess answer then
        (probe (.recordSuccess key config.healthyThreshold)).bind fun _ => next
      else (probe (.recordFailure key config.unhealthyThreshold)).bind
        fun _ => next) log a) :
    ∃ rest, log = recording config key answer :: rest ∧
      next.Returns rest a := by
  unfold recording
  by_cases hsuccess : answersSuccess answer = true
  · rw [if_pos hsuccess] at h ⊢
    obtain ⟨_, rest, rfl, hrest⟩ := Program.returns_call.mp h
    exact ⟨rest, rfl, hrest⟩
  · rw [if_neg hsuccess] at h ⊢
    obtain ⟨_, rest, rfl, hrest⟩ := Program.returns_call.mp h
    exact ⟨rest, rfl, hrest⟩

/-- A recording neither lists instances nor resolves a service. -/
theorem listedBy_recording (config) (key : String) (answer : Except String Nat) :
    listedBy (recording config key answer) = [] ∧
      resolvedBy (recording config key answer) = none := by
  unfold recording
  cases answersSuccess answer <;> exact ⟨rfl, rfl⟩

theorem probeInstances_probed {instances : List ServiceInstance}
    {seenKeys seenKeys' : List String} {log : List ProbeExchange}
    (h : (probeInstances config instances seenKeys).Returns log seenKeys') :
    (∃ answers, Probed config
      (keepFresh ServiceInstance.hostPort seenKeys instances) log answers) ∧
    listedIn log = [] ∧ log.filterMap resolvedBy = [] ∧
    ∀ key, key ∈ seenKeys' ↔
      key ∈ seenKeys ∨ key ∈ instances.map ServiceInstance.hostPort := by
  induction instances generalizing seenKeys log with
  | nil =>
      obtain ⟨rfl, rfl⟩ := Program.returns_done.mp h
      exact ⟨⟨[], .nil⟩, rfl, rfl, by simp⟩
  | cons inst instances ih =>
      unfold probeInstances at h
      dsimp only at h
      split at h
      · next hseen =>
          obtain ⟨hprobed, hlisted, hresolved, hkeys⟩ := ih h
          rw [keepFresh_cons_of_seen hseen]
          refine ⟨hprobed, hlisted, hresolved, fun key => ?_⟩
          rw [hkeys, List.map_cons, List.mem_cons]
          constructor
          · exact fun h => h.imp_right .inr
          · rintro (h | rfl | h)
            · exact .inl h
            · exact .inl hseen
            · exact .inr h
      · next hunseen =>
          obtain ⟨answer, rest, rfl, hrest⟩ := Program.returns_call.mp h
          obtain ⟨last, rfl, hlast⟩ := returns_recording hrest
          obtain ⟨⟨answers, hprobed⟩, hlisted, hresolved, hkeys⟩ := ih hlast
          obtain ⟨hlists, hresolves⟩ :=
            listedBy_recording config inst.hostPort answer
          rw [keepFresh_cons_of_unseen hunseen]
          refine ⟨⟨answer :: answers, (Probed.single inst answer).append
            hprobed⟩, ?_, ?_, fun key => ?_⟩
          · exact (congrArg (· ++ listedIn last) hlists).trans hlisted
          · exact (List.filterMap_cons_none hresolves).trans hresolved
          · rw [hkeys, List.map_cons, List.mem_cons, List.mem_cons]
            tauto

/-- The services of the routes are resolved in order, and what they list is
probed where it is listed first. -/
theorem probeRoutes_probed {routes : List RoutingRule}
    {seenKeys : List String} {log : List ProbeExchange}
    (h : (probeRoutes config routes seenKeys).Returns log ()) :
    (∃ answers, Probed config
      (keepFresh ServiceInstance.hostPort seenKeys (listedIn log)) log
        answers) ∧
    log.filterMap resolvedBy = routes.filterMap RoutingRule.serviceId := by
  induction routes generalizing seenKeys log with
  | nil =>
      obtain ⟨rfl, -⟩ := Program.returns_done.mp h
      exact ⟨⟨[], .nil⟩, rfl⟩
  | cons route routes ih =>
      unfold probeRoutes at h
      cases hsvc : route.serviceId with
      | none =>
          rw [hsvc] at h
          rw [List.filterMap_cons_none hsvc]
          exact ih h
      | some svcId =>
          rw [hsvc] at h
          rw [List.filterMap_cons_some hsvc]
          obtain ⟨resolved, rest, rfl, hrest⟩ := returns_probe_bind.mp h
          cases resolved with
          | error e =>
              obtain ⟨⟨answers, hprobed⟩, hresolved⟩ := ih hrest
              exact ⟨⟨answers, hprobed.cons_quiet rfl rfl⟩,
                congrArg (svcId :: ·) hresolved⟩
          | ok instances =>
              obtain ⟨first, seenKeys', last, rfl, hfirst, hlast⟩ :=
                Program.returns_bind.mp hrest
              obtain ⟨⟨answers, hprobed⟩, hlisted, hresolved, hkeys⟩ :=
                probeInstances_probed hfirst
              obtain ⟨⟨answers', hprobed'⟩, hresolved'⟩ := ih hlast
              have hlog : listedIn (⟨.resolve svcId, .ok instances⟩ ::
                  (first ++ last)) = instances ++ listedIn last := by
                rw [listedIn, List.flatMap_cons, List.flatMap_append]
                exact congrArg (fun quiet =>
                  instances ++ (quiet ++ listedIn last)) hlisted
              rw [hlog, keepFresh_append instances (listedIn last) hkeys]
              have hservices : (first ++ last).filterMap resolvedBy =
                  routes.filterMap RoutingRule.serviceId := by
                rw [List.filterMap_append, hresolved, hresolved',
                  List.nil_append]
              exact ⟨⟨answers ++ answers',
                (hprobed.append hprobed').cons_quiet rfl rfl⟩,
                congrArg (svcId :: ·) hservices⟩

end Loops

/-! ## Whole rounds -/

/-- What a complete round probes. -/
theorem probeAll_probed {config : HealthCheckConfig}
    {log : List ProbeExchange} (h : (probeAll config).Returns log ()) :
    ∃ answers, Probed config
      (keepFirst ServiceInstance.hostPort (listedIn log)) log answers := by
  obtain ⟨cfg, rest, rfl, hrest⟩ := returns_probe_bind.mp h
  obtain ⟨⟨answers, hprobed⟩, -⟩ := probeRoutes_probed hrest
  have hfresh : keepFresh ServiceInstance.hostPort [] (listedIn rest) =
      keepFirst ServiceInstance.hostPort (listedIn rest) := by
    simp [keepFresh]
  rw [hfresh] at hprobed
  exact ⟨answers, hprobed.cons_quiet rfl rfl⟩

/--
A complete round resolves exactly the services of the configured routes, in
their order.  The instances listed in return are probed once each by address,
at the health path, and each answer is recorded under that address.
-/
theorem probeAll_exact {config : HealthCheckConfig}
    {log : List ProbeExchange} (h : (probeAll config).Returns log ()) :
    ∃ cfg answers, log.head? = some ⟨.loadConfig, cfg⟩ ∧
      log.filterMap resolvedBy =
        cfg.routes.filterMap RoutingRule.serviceId ∧
      Probed config (keepFirst ServiceInstance.hostPort (listedIn log)) log
        answers := by
  obtain ⟨cfg, rest, rfl, hrest⟩ := returns_probe_bind.mp h
  obtain ⟨answers, hprobed⟩ := probeAll_probed h
  exact ⟨cfg, answers, rfl, (probeRoutes_probed hrest).2, hprobed⟩

/-! ## The result of one address -/

theorem probeUrl_eq (config : HealthCheckConfig) (inst : ServiceInstance) :
    probeUrl config inst = s!"http://{inst.hostPort}{config.path}" := by
  simp [probeUrl, ServiceInstance.hostPort, String.append_assoc, toString]

theorem resultsOf_append (first second : List ProbeExchange) :
    resultsOf (first ++ second) = resultsOf first ++ resultsOf second :=
  List.filterMap_append

theorem historyOf_append (key : String) (first second : List ProbeResult) :
    historyOf key (first ++ second) =
      historyOf key first ++ historyOf key second := by
  simp [historyOf]

theorem historyOf_zip_eq_nil {key : String} {instances : List ServiceInstance}
    (hkey : key ∉ instances.map ServiceInstance.hostPort)
    (oks : List Bool) :
    historyOf key ((instances.map ServiceInstance.hostPort).zip oks) = [] := by
  rw [historyOf, List.map_eq_nil_iff, List.filter_eq_nil_iff]
  rintro ⟨other, ok⟩ hmem heq
  have hother := (List.of_mem_zip hmem).1
  rw [decide_eq_true_eq] at heq
  exact hkey (heq ▸ hother)

/-- Of instances with different addresses one has the result. -/
theorem historyOf_zip {key : String} (config : HealthCheckConfig)
    {instances : List ServiceInstance} {answers : List (Except String Nat)}
    (hlength : answers.length = instances.length)
    (hnodup : (instances.map ServiceInstance.hostPort).Nodup)
    (hkey : key ∈ instances.map ServiceInstance.hostPort) :
    ∃ answer, (s!"http://{key}{config.path}", answer) ∈
        (instances.map (probeUrl config)).zip answers ∧
      historyOf key ((instances.map ServiceInstance.hostPort).zip
        (answers.map answersSuccess)) = [answersSuccess answer] := by
  induction instances generalizing answers with
  | nil => cases hkey
  | cons inst instances ih =>
      cases answers with
      | nil => cases hlength
      | cons answer answers =>
          rw [List.map_cons, List.nodup_cons] at hnodup
          simp only [List.map_cons, List.zip_cons_cons]
          rcases List.mem_cons.mp hkey with rfl | hkey
          · refine ⟨answer, ?_, ?_⟩
            · rw [← probeUrl_eq]
              exact List.mem_cons_self
            · have hrest := historyOf_zip_eq_nil hnodup.1
                (answers.map answersSuccess)
              rw [← List.singleton_append, historyOf_append, hrest]
              simp [historyOf]
          · obtain ⟨found, hfound, hhistory⟩ :=
              ih (by simpa using hlength) hnodup.2 hkey
            refine ⟨found, List.mem_cons_of_mem _ hfound, ?_⟩
            have hne : inst.hostPort ≠ key := fun heq =>
              hnodup.1 (heq ▸ hkey)
            rw [← List.singleton_append, historyOf_append, hhistory]
            simp [historyOf, hne]

/-- In a complete round the address was listed, and answered in this way. -/
structure RoundAnswering (config : HealthCheckConfig) (key : String)
    (ok : Bool) (log : List ProbeExchange) : Prop where
  completed : (probeAll config).Returns log ()
  listed : key ∈ (listedIn log).map ServiceInstance.hostPort
  answered : ∀ answer,
    (s!"http://{key}{config.path}", answer) ∈ probesOf log →
      answersSuccess answer = ok

theorem RoundAnswering.history {config : HealthCheckConfig} {key : String}
    {ok : Bool} {log : List ProbeExchange}
    (h : RoundAnswering config key ok log) :
    historyOf key (resultsOf log) = [ok] := by
  obtain ⟨answers, hprobed⟩ := probeAll_probed h.completed
  have hkeys : (keepFirst ServiceInstance.hostPort (listedIn log)).map
      ServiceInstance.hostPort =
        keepFirst id ((listedIn log).map ServiceInstance.hostPort) :=
    (keepFirst_map id ServiceInstance.hostPort (listedIn log)).symm
  obtain ⟨answer, hasked, hhistory⟩ := historyOf_zip config hprobed.length
    (hkeys ▸ nodup_keepFirst_id _) (hkeys ▸ mem_keepFirst_id.mpr h.listed)
  rw [hprobed.results, hhistory, h.answered answer (hprobed.probes ▸ hasked)]

theorem history_of_rounds {config : HealthCheckConfig} {key : String}
    {ok : Bool} {rounds : List (List ProbeExchange)}
    (h : ∀ log ∈ rounds, RoundAnswering config key ok log) :
    historyOf key (resultsOf rounds.flatten) =
      List.replicate rounds.length ok := by
  induction rounds with
  | nil => rfl
  | cons log rounds ih =>
      rw [List.forall_mem_cons] at h
      rw [List.flatten_cons, resultsOf_append, historyOf_append,
        h.1.history, ih h.2]
      rfl

/-! ## Selections after failing rounds -/

theorem mem_of_indexOrPanic {items : List ServiceInstance} {idx : Nat}
    {log : List ServerExchange} {inst : ServiceInstance}
    (h : (indexOrPanic items idx).Returns log inst) : inst ∈ items := by
  unfold indexOrPanic at h
  split at h
  · next other hget =>
      obtain ⟨-, rfl⟩ := Program.returns_done.mp h
      exact List.mem_of_getElem? hget
  · exact absurd h Program.not_returns_abort

theorem mem_of_weightedRoundRobinPick {items : List ServiceInstance}
    {svcId : String} {log : List ServerExchange} {inst : ServiceInstance}
    (h : (weightedRoundRobinPick items svcId).Returns log inst) :
    inst ∈ items := by
  obtain ⟨c, rest, -, h⟩ := returns_perform_bind.mp h
  obtain ⟨first, idx, rest, -, -, h⟩ := Program.returns_bind.mp h
  split at h
  · exact mem_of_indexOrPanic h
  · split at h
    · next other hlast =>
        obtain ⟨-, rfl⟩ := Program.returns_done.mp h
        exact List.mem_of_getLast? hlast
    · exact absurd h Program.not_returns_abort

/-- What is returned is one of the instances, whatever their weights. -/
theorem mem_of_selectAmong {items : List ServiceInstance} {svcId : String}
    {mode : InstanceSelection} {log : List ServerExchange}
    {inst : ServiceInstance}
    (h : (selectAmong items items svcId mode).Returns log inst) :
    inst ∈ items := by
  unfold selectAmong at h
  rw [if_neg (by simp)] at h
  cases mode with
  | first => exact mem_of_indexOrPanic h
  | roundRobin =>
      obtain ⟨c, rest, -, h⟩ := returns_perform_bind.mp h
      obtain ⟨first, idx, rest, -, -, h⟩ := Program.returns_bind.mp h
      exact mem_of_indexOrPanic h
  | random =>
      obtain ⟨first, idx, rest, -, -, h⟩ := Program.returns_bind.mp h
      exact mem_of_indexOrPanic h
  | weightedRoundRobin => exact mem_of_weightedRoundRobinPick h

/-- With some instance healthy, only healthy instances are selected. -/
theorem mem_of_serveSelection (P : Platform) (world : World) {s : Serving}
    {instances : List ServiceInstance}
    (hsome : s.healthyAmong instances ≠ []) {svcId : String}
    {mode : InstanceSelection} {inst : ServiceInstance}
    (h : (serveSelection P world s instances svcId mode).result =
      some inst) :
    inst ∈ instances ∧
      s.state.healthStatus.isHealthy inst.hostPort = true := by
  have hserved := serveSelection_eq P world s instances svcId mode
  rw [selectAmong_of_healthy hsome List.filter_sublist] at hserved
  have hreturns := Program.serve_returns (hserved.1.symm.trans h)
  exact List.mem_filter.mp (mem_of_selectAmong hreturns)

/-- With some instance healthy, a selection that does not overflow succeeds. -/
theorem exists_selected_healthy (P : Platform) (world : World) {s : Serving}
    {instances : List ServiceInstance}
    (hsome : s.healthyAmong instances ≠ []) (svcId : String)
    {mode : InstanceSelection}
    (hfits : mode = .weightedRoundRobin →
      ((s.healthyAmong instances).map ServiceInstance.weight).sum < 2 ^ 64) :
    ∃ inst, (serveSelection P world s instances svcId mode).result =
        some inst ∧
      inst ∈ instances ∧
      s.state.healthStatus.isHealthy inst.hostPort = true := by
  have halike := selectsAlike_of_selectAmong P world
    (selectAmong_of_healthy hsome List.filter_sublist svcId mode)
  obtain ⟨inst, hresult, hmem⟩ :=
    exists_serveSelection P world s hsome svcId hfits
  exact ⟨inst, halike.1.symm.trans hresult, List.mem_filter.mp hmem⟩

/-- The rounds of a health checker: any first ones, some in which an address
answers in one way, and later ones, of which the last may be under way. -/
structure CheckedRounds (config : HealthCheckConfig) (key : String) (ok : Bool)
    (first answering later : List (List ProbeExchange)) : Prop where
  before : ∀ log ∈ first, ∃ rest, (probeAll config).Runs log rest
  answered : ∀ log ∈ answering, RoundAnswering config key ok log
  after : ∀ log ∈ later, ∃ rest, (probeAll config).Runs log rest
  short : NoLongRun
    (historyOf key (resultsOf (first ++ answering ++ later).flatten))

/-- So many answers of this kind in a row decide the mark. -/
def decisiveRun (config : HealthCheckConfig) (ok : Bool) : Nat :=
  max (if ok then config.healthyThreshold else config.unhealthyThreshold) 1

namespace CheckedRounds

variable {config : HealthCheckConfig} {key : String} {ok : Bool}
  {first answering later : List (List ProbeExchange)}

theorem history (h : CheckedRounds config key ok first answering later) :
    historyOf key (resultsOf (first ++ answering ++ later).flatten) =
      historyOf key (resultsOf first.flatten) ++
        List.replicate answering.length ok ++
        historyOf key (resultsOf later.flatten) := by
  rw [List.flatten_append, List.flatten_append, resultsOf_append,
    resultsOf_append, historyOf_append, historyOf_append,
    history_of_rounds h.answered]

theorem isHealthy_iff (h : CheckedRounds config key ok first answering later) :
    (HealthStatus.new.after (first ++ answering ++ later).flatten).isHealthy
        key = false ↔
      Marked (decisiveRun config false) (decisiveRun config true)
        (historyOf key
          (resultsOf (first ++ answering ++ later).flatten)) := by
  have hrounds : ∀ log ∈ first ++ answering ++ later,
      ∃ rest, (probeAll config).Runs log rest := by
    intro log hlog
    rcases List.mem_append.mp hlog with hlog | hlog
    · rcases List.mem_append.mp hlog with hlog | hlog
      · exact h.before log hlog
      · exact ⟨_, (h.answered log hlog).completed⟩
    · exact h.after log hlog
  rw [after_rounds hrounds]
  exact isHealthy_recordAll h.short

/--
Once an address has answered in one way often enough in a row, it counts as
healthy or unhealthy accordingly, until the opposite answers have come often
enough in a row.  As long as it is unhealthy and another instance of a service
is healthy, it is not selected for that service; the selection succeeds unless
the weights overflow.
-/
theorem law (h : CheckedRounds config key ok first answering later)
    (henough : decisiveRun config ok ≤ answering.length)
    (hnot : ¬ List.replicate (decisiveRun config (!ok)) (!ok) <:+:
      historyOf key (resultsOf later.flatten)) :
    let status := HealthStatus.new.after (first ++ answering ++ later).flatten
    status.isHealthy key = ok ∧
    (ok = false → ∀ (P : Platform) (world : World) (s : Serving)
      (instances : List ServiceInstance) (svcId : String)
      (mode : InstanceSelection),
      s.state.healthStatus = status → s.healthyAmong instances ≠ [] →
      (∀ picked, (serveSelection P world s instances svcId mode).result =
          some picked → picked ∈ instances ∧ picked.hostPort ≠ key) ∧
      ((mode = .weightedRoundRobin →
          ((s.healthyAmong instances).map ServiceInstance.weight).sum <
            2 ^ 64) →
        ∃ picked, (serveSelection P world s instances svcId mode).result =
            some picked ∧ picked ∈ instances ∧ picked.hostPort ≠ key)) := by
  intro status
  have hpos (ok : Bool) : 0 < decisiveRun config ok :=
    lt_of_lt_of_le Nat.zero_lt_one (le_max_right _ _)
  have hmark : status.isHealthy key = ok := by
    have hiff := h.isHealthy_iff
    rw [h.history] at hiff
    cases ok with
    | false => exact hiff.mpr (marked_of_replicate henough hnot)
    | true =>
        by_contra hunhealthy
        have hmarked := hiff.mp (Bool.eq_false_of_not_eq_true hunhealthy)
        exact not_marked_of_replicate (hpos false) (hpos true) henough hnot
          hmarked
  refine ⟨hmark, ?_⟩
  rintro rfl P world s instances svcId mode hstatus hsome
  have hother {picked : ServiceInstance}
      (hhealthy : s.state.healthStatus.isHealthy picked.hostPort = true) :
      picked.hostPort ≠ key := by
    rintro rfl
    rw [hstatus, hmark] at hhealthy
    cases hhealthy
  constructor
  · intro picked hresult
    obtain ⟨hmem, hhealthy⟩ := mem_of_serveSelection P world hsome hresult
    exact ⟨hmem, hother hhealthy⟩
  · intro hfits
    obtain ⟨picked, hresult, hmem, hhealthy⟩ :=
      exists_selected_healthy P world hsome svcId hfits
    exact ⟨picked, hresult, hmem, hother hhealthy⟩

end CheckedRounds

/-! ## One failing round -/

def eagerCheck : HealthCheckConfig where
  unhealthyThreshold := 1

def checkedConfig : AppConfig where
  routes := [
    { id := "orders"
      path := .prefix_ "/orders"
      serviceId := some "orders"
      upstreamUrl := none
      stripPrefix := none }]

/-- The first instance refuses the connection. -/
def refusedRound : List ProbeExchange := [
  ⟨.loadConfig, checkedConfig⟩,
  ⟨.resolve "orders", .ok [firstInstance, secondInstance]⟩,
  ⟨.get (probeUrl eagerCheck firstInstance), .error "refused"⟩,
  ⟨.recordFailure firstInstance.hostPort 1, ()⟩,
  ⟨.get (probeUrl eagerCheck secondInstance), .ok 200⟩,
  ⟨.recordSuccess secondInstance.hostPort 1, ()⟩]

private theorem refusedRound_answering :
    RoundAnswering eagerCheck "10.0.0.1:1" false refusedRound where
  completed :=
    .step _ (.step _ (.step _ (.step _ (.step _ (.step _ (.refl _))))))
  listed := by decide
  answered answer hmem := by
    have hprobes : probesOf refusedRound =
        [(probeUrl eagerCheck firstInstance, .error "refused"),
          (probeUrl eagerCheck secondInstance, .ok 200)] := rfl
    rw [hprobes] at hmem
    rcases List.mem_pair.mp hmem with h | h
    · rw [(Prod.mk.inj h).2]
      rfl
    · exact absurd (Prod.mk.inj h).1 (by decide)

theorem probeAll_exact_refused :
    ∃ answers, Probed eagerCheck [firstInstance, secondInstance] refusedRound
      answers := by
  obtain ⟨cfg, answers, -, -, hprobed⟩ :=
    probeAll_exact refusedRound_answering.completed
  exact ⟨answers, hprobed⟩

private theorem refusedRound_checked :
    CheckedRounds eagerCheck "10.0.0.1:1" false [] [refusedRound] [] where
  before := nofun
  answered := by simpa using refusedRound_answering
  after := nofun
  short := by
    intro ok hlong
    have hlength := hlong.length_le
    have hhistory : historyOf "10.0.0.1:1"
        (resultsOf ([] ++ [refusedRound] ++ []).flatten) = [false] :=
      refusedRound_answering.history
    rw [hhistory, List.length_replicate] at hlength
    exact absurd hlength (by decide)

def refusedServing : Serving :=
  { halfMarked with
    state := { halfMarked.state with
      healthStatus := HealthStatus.new.after refusedRound } }

theorem CheckedRounds.law_refused :
    ∃ picked, (serveSelection .plain silentWorld refusedServing
        [firstInstance, secondInstance] "orders" .first).result =
          some picked ∧
      picked ∈ [firstInstance, secondInstance] ∧
      picked.hostPort ≠ "10.0.0.1:1" := by
  have hsome : refusedServing.healthyAmong [firstInstance, secondInstance] =
      [secondInstance] := rfl
  refine ((refusedRound_checked.law (by decide) (by decide)).2 rfl .plain
    silentWorld refusedServing _ "orders" .first rfl ?_).2 nofun
  rw [hsome]
  decide

end ServiceRouter
