import ServiceRouter.Foundation.Counters
import ServiceRouter.Foundation.Rotation
import ServiceRouter.Server.HandlerOps

/-!
# Fairness of round robin

Calls of `select_service_instance` interleave and share one counter for each
service.  While the instances, the mode and the health of a service stay as
they are, its picks read a rotation of the candidates, in the weighted mode of
the candidates repeated by weight.
-/

namespace ServiceRouter

open Foundation

/-! ## One call -/

structure SelectionCall where
  instances : List ServiceInstance
  svcId : String
  selection : InstanceSelection

def SelectionCall.program (call : SelectionCall) :
    ServerProgram ServiceInstance :=
  selectServiceInstance call.instances call.svcId call.selection

/-- The healthy instances when some but not all are healthy, otherwise all. -/
def candidates (health : String → Bool) (instances : List ServiceInstance) :
    List ServiceInstance :=
  let healthy := instances.filter fun inst => health inst.hostPort
  if !healthy.isEmpty && healthy.length < instances.length then healthy
  else instances

theorem candidates_ne_nil (health : String → Bool)
    {instances : List ServiceInstance} (hne : instances ≠ []) :
    candidates health instances ≠ [] := by
  unfold candidates
  dsimp only
  split
  · rename_i hsome
    rw [Bool.and_eq_true] at hsome
    simpa using hsome.1
  · exact hne

/-- The instances that consecutive counters pick, for the two modes that use
the counter. -/
def turns (mode : InstanceSelection) (instances : List ServiceInstance) :
    List ServiceInstance :=
  match mode with
  | .weightedRoundRobin =>
      Rotation.expand ServiceInstance.weight instances
  | _ => instances

def pick (svcId : String) (c : Nat) : ServerExchange := ⟨.fetchAdd svcId, c⟩

/-- The reply to a question about health is what `health` says. -/
def HealthyBy (health : String → Bool) (exchange : ServerExchange) : Prop :=
  match exchange with
  | ⟨.isHealthy key, answer⟩ => answer = health key
  | _ => True

theorem healthyInstances_eq {health : String → Bool}
    {instances healthy : List ServiceInstance} {log : List ServerExchange}
    (h : (healthyInstances instances).Returns log healthy)
    (hhealth : ∀ exchange ∈ log, HealthyBy health exchange) :
    healthy = instances.filter fun inst => health inst.hostPort := by
  induction instances generalizing log healthy with
  | nil => exact (Program.returns_done.mp h).2.symm
  | cons inst instances ih =>
      obtain ⟨answer, rest, rfl, hrest⟩ := returns_perform_bind.mp h
      obtain ⟨first, others, last, rfl, hothers, hlast⟩ :=
        Program.returns_bind.mp hrest
      obtain ⟨rfl, rfl⟩ := Program.returns_done.mp hlast
      have hanswer : answer = health inst.hostPort :=
        hhealth _ List.mem_cons_self
      have htail := ih hothers fun exchange hmem => by
        apply hhealth
        simp [hmem]
      rw [List.filter_cons, ← hanswer, ← htail]

/-! ## The two copies of the weighted scan -/

theorem totalWeight_eq_sum {weights : List Nat}
    (hfits : weights.sum < 2 ^ 64) : totalWeight weights = weights.sum := by
  have hfoldl : ∀ (weights : List Nat) (total : Nat),
      total + weights.sum < 2 ^ 64 →
        weights.foldl (fun total w => (total + w) % 2 ^ 64) total =
          total + weights.sum := by
    intro weights
    induction weights with
    | nil =>
        intro total _
        rfl
    | cons w weights ih =>
        intro total hlt
        rw [List.sum_cons] at hlt ⊢
        have hmod : (total + w) % 2 ^ 64 = total + w :=
          Nat.mod_eq_of_lt (by omega)
        rw [List.foldl_cons, hmod, ih (total + w) (by omega)]
        omega
  have htotal := hfoldl weights 0 (by omega)
  rwa [Nat.zero_add] at htotal

theorem firstAbove_eq_intervalOf {weights : List Nat} {c cum : Nat}
    (hcum : cum ≤ c) (hfits : cum + weights.sum < 2 ^ 64) :
    firstAbove c cum weights = Rotation.intervalOf (c - cum) weights := by
  induction weights generalizing cum with
  | nil => rfl
  | cons w weights ih =>
      rw [List.sum_cons] at hfits
      have hmod : (cum + w) % 2 ^ 64 = cum + w :=
        Nat.mod_eq_of_lt (by omega)
      rw [firstAbove, Rotation.intervalOf]
      simp only [hmod]
      by_cases hlt : c < cum + w
      · rw [if_pos hlt, if_pos (by omega)]
      · rw [if_neg hlt, if_neg (by omega), ih (by omega) (by omega),
          Nat.sub_add_eq]

/-! ## A pick ends its call -/

/-- A mode whose picks read the counter; the weights of the weighted mode are
summed without overflow. -/
def TakesTurns (mode : InstanceSelection) (instances : List ServiceInstance) :
    Prop :=
  mode = .roundRobin ∨
    mode = .weightedRoundRobin ∧
      (instances.map ServiceInstance.weight).sum < 2 ^ 64

/-- After the counter is read the call has its result. -/
def PicksTurn (program : ServerProgram ServiceInstance) (svcId : String)
    (items : List ServiceInstance) : Prop :=
  ∃ next : Nat → ServerProgram ServiceInstance,
    program = .call (.fetchAdd svcId) next ∧
      ∀ c inst, items[c % items.length]? = some inst → next c = .done inst

theorem remOrPanic_of_getElem? {items : List ServiceInstance} {c : Nat}
    {inst : ServiceInstance} (h : items[c % items.length]? = some inst) :
    remOrPanic c items.length = .done (c % items.length) := by
  have hlength : items.length ≠ 0 := by
    intro hzero
    rw [List.length_eq_zero_iff.mp hzero] at h
    cases h
  rw [remOrPanic, if_neg hlength]
  rfl

theorem indexOrPanic_of_getElem? {items : List ServiceInstance} {i : Nat}
    {inst : ServiceInstance} (h : items[i]? = some inst) :
    indexOrPanic items i = .done inst := by
  rw [indexOrPanic, h]
  rfl

/-- The scan finds the interval of the counter, so no fallback is taken. -/
theorem firstAbove_of_turn {items : List ServiceInstance} {c : Nat}
    {inst : ServiceInstance}
    (hfits : (items.map ServiceInstance.weight).sum < 2 ^ 64)
    (h : (turns .weightedRoundRobin items)[
      c % (turns .weightedRoundRobin items).length]? = some inst) :
    ∃ i, remOrPanic c (totalWeight (items.map ServiceInstance.weight)) =
        .done (c % (items.map ServiceInstance.weight).sum) ∧
      firstAbove (c % (items.map ServiceInstance.weight).sum) 0
        (items.map ServiceInstance.weight) = some i ∧
      items[i]? = some inst := by
  have hrem := remOrPanic_of_getElem? h
  have hlength : (turns .weightedRoundRobin items).length =
      (items.map ServiceInstance.weight).sum :=
    Rotation.length_expand _ items
  rw [hlength] at h hrem
  rw [turns, Rotation.getElem?_expand] at h
  obtain ⟨i, hi, hinst⟩ := Option.bind_eq_some_iff.mp h
  refine ⟨i, ?_, ?_, hinst⟩
  · rw [totalWeight_eq_sum hfits, hrem]
  · rw [firstAbove_eq_intervalOf (Nat.zero_le _) (by omega)]
    exact hi

theorem healthyIndex_picksTurn {healthy : List ServiceInstance}
    {svcId : String} {mode : InstanceSelection}
    (hmode : TakesTurns mode healthy) :
    PicksTurn ((healthyIndex healthy svcId mode).bind (indexOrPanic healthy))
      svcId (turns mode healthy) := by
  rcases hmode with rfl | ⟨rfl, hfits⟩
  · refine ⟨fun c => (remOrPanic c healthy.length).bind
      (indexOrPanic healthy), rfl, ?_⟩
    intro c inst h
    have hrem := remOrPanic_of_getElem? h
    simp only [turns] at h hrem
    simp only [hrem, Program.done_bind]
    exact indexOrPanic_of_getElem? h
  · refine ⟨fun c => ((remOrPanic c (totalWeight
      (healthy.map ServiceInstance.weight))).bind fun c =>
        .done ((firstAbove c 0
          (healthy.map ServiceInstance.weight)).getD (healthy.length - 1))).bind
            (indexOrPanic healthy), rfl, ?_⟩
    intro c inst h
    obtain ⟨i, hrem, hfirst, hinst⟩ := firstAbove_of_turn hfits h
    simp only [hrem, Program.done_bind, hfirst, Option.getD_some]
    exact indexOrPanic_of_getElem? hinst

theorem weightedRoundRobinPick_picksTurn {instances : List ServiceInstance}
    {svcId : String}
    (hfits : (instances.map ServiceInstance.weight).sum < 2 ^ 64) :
    PicksTurn (weightedRoundRobinPick instances svcId) svcId
      (turns .weightedRoundRobin instances) := by
  refine ⟨_, rfl, ?_⟩
  intro c inst h
  obtain ⟨i, hrem, hfirst, hinst⟩ := firstAbove_of_turn hfits h
  refine (congrArg (Program.bind · _) hrem).trans ?_
  refine (Program.done_bind _ _).trans ?_
  split
  · next j hj =>
      rw [hfirst] at hj
      cases hj
      exact indexOrPanic_of_getElem? hinst
  · next hnone =>
      rw [hfirst] at hnone
      cases hnone

theorem selectAmong_picksTurn {health : String → Bool}
    {instances : List ServiceInstance} {svcId : String}
    {mode : InstanceSelection}
    (hmode : TakesTurns mode (candidates health instances)) :
    PicksTurn (selectAmong instances
      (instances.filter fun inst => health inst.hostPort) svcId mode)
      svcId (turns mode (candidates health instances)) := by
  unfold candidates selectAmong at *
  dsimp only at *
  split at hmode
  · next hsome =>
      rw [if_pos hsome, if_pos hsome]
      exact healthyIndex_picksTurn hmode
  · next hall =>
      rw [if_neg hall, if_neg hall]
      rcases hmode with rfl | ⟨rfl, hfits⟩
      · refine ⟨fun c => (remOrPanic c instances.length).bind
          (indexOrPanic instances), rfl, ?_⟩
        intro c inst h
        have hrem := remOrPanic_of_getElem? h
        simp only [turns] at h hrem
        simp only [hrem, Program.done_bind]
        exact indexOrPanic_of_getElem? h
      · exact weightedRoundRobinPick_picksTurn hfits

/-! ## The shared counters -/

def isPick (svcId : String) (event : ServerEvent) : Bool :=
  match event.exchange.op with
  | .fetchAdd id => id = svcId
  | _ => false

/-- The picks of a service, in the order in which they read its counter. -/
def picksOf (svcId : String) (events : List ServerEvent) : List ServerEvent :=
  events.filter (isPick svcId)

def CountedBy (counters : HashMap String Nat) (event : ServerEvent) : Prop :=
  match event.exchange with
  | ⟨.fetchAdd svcId, c⟩ => c = (counters.lookup svcId).getD 0
  | _ => True

def countersAfter (counters : HashMap String Nat) (event : ServerEvent) :
    HashMap String Nat :=
  match event.exchange.op with
  | .fetchAdd svcId => Counters.increment 64 counters svcId
  | _ => counters

/-- Every pick reads its counter and adds one; a new counter starts at zero. -/
def CountersAnswer : HashMap String Nat → List ServerEvent → Prop
  | _, [] => True
  | counters, event :: rest =>
      CountedBy counters event ∧
        CountersAnswer (countersAfter counters event) rest

theorem exchange_of_isPick {svcId : String} {counters : HashMap String Nat}
    {event : ServerEvent} (hpick : isPick svcId event = true)
    (hcounted : CountedBy counters event) :
    event.exchange = pick svcId ((counters.lookup svcId).getD 0) := by
  obtain ⟨clock, program, op, reply⟩ := event
  cases op with
  | fetchAdd id =>
      obtain rfl : id = svcId := of_decide_eq_true hpick
      have hreply : reply = (counters.lookup id).getD 0 := hcounted
      subst hreply
      rfl
  | _ => cases hpick

theorem lookup_countersAfter_of_isPick {svcId : String}
    {counters : HashMap String Nat} {event : ServerEvent}
    (hpick : isPick svcId event = true)
    (hwrap : (counters.lookup svcId).getD 0 + 1 < 2 ^ 64) :
    ((countersAfter counters event).lookup svcId).getD 0 =
      (counters.lookup svcId).getD 0 + 1 := by
  obtain ⟨clock, program, op, reply⟩ := event
  cases op with
  | fetchAdd id =>
      obtain rfl : id = svcId := of_decide_eq_true hpick
      have hafter : (countersAfter counters
          ⟨clock, program, .fetchAdd id, reply⟩).lookup id =
            some (Counters.next 64 (counters.lookup id)) :=
        AList.lookup_insert counters
      rw [hafter, Option.getD_some]
      cases hlookup : counters.lookup id with
      | none => rfl
      | some c =>
          rw [hlookup] at hwrap
          exact Nat.mod_eq_of_lt hwrap
  | _ => cases hpick

theorem lookup_countersAfter_of_not_isPick {svcId : String}
    (counters : HashMap String Nat) {event : ServerEvent}
    (hpick : ¬ isPick svcId event = true) :
    (countersAfter counters event).lookup svcId =
      counters.lookup svcId := by
  obtain ⟨clock, program, op, reply⟩ := event
  cases op with
  | fetchAdd id =>
      have hne : svcId ≠ id := by
        rintro rfl
        exact hpick (decide_eq_true rfl)
      exact AList.lookup_insert_ne hne
  | _ => rfl

/-- The picks of a service read consecutive values of its counter. -/
theorem CountersAnswer.picks_consecutive {svcId : String}
    {events : List ServerEvent} {counters : HashMap String Nat}
    (hcounters : CountersAnswer counters events) {k : Nat}
    {event : ServerEvent} (hk : (picksOf svcId events)[k]? = some event)
    (hwrap : (counters.lookup svcId).getD 0 + k < 2 ^ 64) :
    event.exchange = pick svcId ((counters.lookup svcId).getD 0 + k) := by
  induction events generalizing counters k with
  | nil => cases hk
  | cons first events ih =>
      unfold picksOf at hk
      by_cases hpick : isPick svcId first = true
      · rw [List.filter_cons_of_pos hpick] at hk
        cases k with
        | zero =>
            obtain rfl : first = event := by simpa using hk
            exact exchange_of_isPick hpick hcounters.1
        | succ k =>
            rw [List.getElem?_cons_succ] at hk
            have hlt : (counters.lookup svcId).getD 0 + 1 < 2 ^ 64 := by
              omega
            have hnext := lookup_countersAfter_of_isPick hpick hlt
            have hrest := ih hcounters.2 hk (by omega)
            rw [hrest, hnext]
            congr 1
            omega
      · rw [List.filter_cons_of_neg hpick] at hk
        have hsame := lookup_countersAfter_of_not_isPick counters hpick
        have hrest := ih hcounters.2 hk (by rwa [hsame])
        rwa [hsame] at hrest

/-! ## Interleaved calls -/

/-- Every call for the service has these instances and this mode, and the
health of its instances does not change. -/
structure ServiceFixed (calls : Nat → SelectionCall)
    (events : List ServerEvent) (svcId : String)
    (instances : List ServiceInstance) (mode : InstanceSelection)
    (health : String → Bool) : Prop where
  instances : ∀ id, (calls id).svcId = svcId → (calls id).instances = instances
  selection : ∀ id, (calls id).svcId = svcId → (calls id).selection = mode
  health : ∀ event ∈ events, (calls event.program).svcId = svcId →
    HealthyBy health event.exchange

/-- The call that made a pick has returned `inst`. -/
def PickReturned (calls : Nat → SelectionCall) (events : List ServerEvent)
    (event : ServerEvent) (inst : ServiceInstance) : Prop :=
  (calls event.program).program.Returns
    (exchangesOf event.program events) inst

/-- A call picks only for its own service. -/
theorem svcId_of_pick {call : SelectionCall} {log : List ServerExchange}
    {q : ServerProgram ServiceInstance} (h : call.program.Runs log q)
    {svcId : String} {c : Nat} (hmem : pick svcId c ∈ log) :
    call.svcId = svcId := by
  have honly : call.program.OnlyAsks
      fun op : ServerOp => ∀ id, op = .fetchAdd id → call.svcId = id := by
    apply selectServiceInstance_onlyAsks
    constructor
    · intro key id hop
      cases hop
    · intro id hop
      cases hop
      rfl
    · intro len id hop
      cases hop
  exact honly.of_runs h _ hmem svcId rfl

theorem not_mem_of_healthyInstances {instances : List ServiceInstance}
    {log : List ServerExchange} {q : ServerProgram (List ServiceInstance)}
    (h : (healthyInstances instances).Runs log q) (svcId : String) (c : Nat) :
    pick svcId c ∉ log := by
  have honly : (healthyInstances instances).OnlyAsks
      fun op : ServerOp => op ≠ .fetchAdd svcId := by
    apply healthyInstances_onlyAsks
    intro key hop
    cases hop
  intro hmem
  exact honly.of_runs h _ hmem rfl

/-- Nothing follows the pick of a call that takes turns. -/
theorem PicksTurn.returns {program : ServerProgram ServiceInstance}
    {svcId : String} {items : List ServiceInstance}
    (hpicks : PicksTurn program svcId items) {log : List ServerExchange}
    {q : ServerProgram ServiceInstance} (h : program.Runs log q) {c : Nat}
    (hmem : pick svcId c ∈ log) {inst : ServiceInstance}
    (hturn : items[c % items.length]? = some inst) :
    program.Returns log inst := by
  obtain ⟨next, rfl, hnext⟩ := hpicks
  have hpositive : 0 < items.length := by
    have hlt := (List.getElem?_eq_some_iff.mp hturn).1
    omega
  cases h with
  | refl => cases hmem
  | step reply hafter =>
      change Nat at reply
      have hlt : reply % items.length < items.length :=
        Nat.mod_lt reply hpositive
      have hdone := hnext reply _ (List.getElem?_eq_getElem hlt)
      rw [hdone] at hafter
      cases hafter
      have hreply : pick svcId c = ⟨.fetchAdd svcId, reply⟩ :=
        List.mem_singleton.mp hmem
      cases hreply
      apply Program.Runs.step
      rw [hnext c inst hturn]
      exact .refl _

theorem SelectionCall.returns_of_pick {call : SelectionCall}
    {log : List ServerExchange} {q : ServerProgram ServiceInstance}
    (h : call.program.Runs log q) {health : String → Bool}
    (hhealth : ∀ exchange ∈ log, HealthyBy health exchange)
    (hmode : TakesTurns call.selection (candidates health call.instances))
    {c : Nat} (hmem : pick call.svcId c ∈ log) {inst : ServiceInstance}
    (hturn : (turns call.selection (candidates health call.instances))[
      c % (turns call.selection
        (candidates health call.instances)).length]? = some inst) :
    call.program.Returns log inst := by
  rw [program, selectServiceInstance_eq_bind] at h ⊢
  rcases h.of_bind with ⟨r, hr⟩ | ⟨first, healthy, rest, rfl, hfirst, hrest⟩
  · exact absurd hmem (not_mem_of_healthyInstances hr _ _)
  · have hlog : pick call.svcId c ∈ rest := by
      rcases List.mem_append.mp hmem with hmem | hmem
      · exact absurd hmem (not_mem_of_healthyInstances hfirst _ _)
      · exact hmem
    obtain rfl := healthyInstances_eq hfirst fun exchange hexchange =>
      hhealth exchange (List.mem_append_left _ hexchange)
    apply Program.returns_bind.mpr
    exact ⟨first, _, rest, rfl, hfirst,
      (selectAmong_picksTurn hmode).returns hrest hlog hturn⟩

/-- A call that takes turns returns right after its one pick. -/
theorem PicksTurn.log_eq {program : ServerProgram ServiceInstance}
    {svcId : String} {items : List ServiceInstance}
    (hpicks : PicksTurn program svcId items) (hitems : items ≠ [])
    {log : List ServerExchange} {inst : ServiceInstance}
    (h : program.Returns log inst) : ∃ c, log = [pick svcId c] := by
  obtain ⟨next, rfl, hnext⟩ := hpicks
  obtain ⟨reply, rest, rfl, hrest⟩ := Program.returns_call.mp h
  change Nat at reply
  have hlt : reply % items.length < items.length :=
    Nat.mod_lt reply (List.length_pos_iff.mpr hitems)
  rw [hnext reply _ (List.getElem?_eq_getElem hlt)] at hrest
  obtain ⟨rfl, -⟩ := Program.returns_done.mp hrest
  exact ⟨reply, rfl⟩

/-- Without instances a call that takes turns panics. -/
theorem not_returns_selectAmong_nil {svcId : String}
    {mode : InstanceSelection} (hmode : TakesTurns mode [])
    (log : List ServerExchange) (inst : ServiceInstance) :
    ¬ (selectAmong [] [] svcId mode).Returns log inst := by
  rcases hmode with rfl | ⟨rfl, -⟩
  · rintro h
    obtain ⟨reply, rest, rfl, hrest⟩ := Program.returns_call.mp h
    exact Program.not_returns_abort hrest
  · rintro h
    obtain ⟨reply, rest, rfl, hrest⟩ := Program.returns_call.mp h
    exact Program.not_returns_abort hrest

theorem turns_ne_nil {mode : InstanceSelection}
    {instances : List ServiceInstance} (h : instances ≠ []) :
    turns mode instances ≠ [] := by
  cases mode with
  | weightedRoundRobin =>
      obtain ⟨inst, rest, rfl⟩ := List.exists_cons_of_ne_nil h
      have hweight : inst.weight ≠ 0 := by
        have : 1 ≤ inst.weight := le_max_right _ _
        omega
      simp [turns, Rotation.expand_cons, hweight]
  | _ => exact h

/-- A call that has returned has made its pick last. -/
theorem SelectionCall.log_of_returns {call : SelectionCall}
    {log : List ServerExchange} {inst : ServiceInstance}
    (h : call.program.Returns log inst) {health : String → Bool}
    (hhealth : ∀ exchange ∈ log, HealthyBy health exchange)
    (hmode : TakesTurns call.selection (candidates health call.instances)) :
    ∃ asked c, log = asked ++ [pick call.svcId c] ∧
      ∀ other, pick call.svcId other ∉ asked := by
  rw [program, selectServiceInstance_eq_bind] at h
  obtain ⟨asked, healthy, rest, rfl, hasked, hrest⟩ :=
    Program.returns_bind.mp h
  obtain rfl := healthyInstances_eq hasked fun exchange hexchange =>
    hhealth exchange (List.mem_append_left _ hexchange)
  have hsome : call.instances ≠ [] := by
    intro hnil
    rw [hnil] at hmode hrest
    exact not_returns_selectAmong_nil hmode rest inst hrest
  have hturns : turns call.selection (candidates health call.instances) ≠ [] :=
    turns_ne_nil (candidates_ne_nil health hsome)
  obtain ⟨c, rfl⟩ := (selectAmong_picksTurn hmode).log_eq hturns hrest
  exact ⟨asked, c, rfl, fun other =>
    not_mem_of_healthyInstances hasked _ other⟩

section Fairness

variable {calls : Nat → SelectionCall} {counters : HashMap String Nat}
  {events : List ServerEvent} {svcId : String}
  {instances : List ServiceInstance} {mode : InstanceSelection}
  {health : String → Bool}

/-- A pick at counter `c` has returned the instance whose turn `c` is. -/
theorem pickReturned_turn
    (hinterleaves : Interleaves (fun id => (calls id).program) events)
    (hfixed : ServiceFixed calls events svcId instances mode health)
    (hmode : TakesTurns mode (candidates health instances))
    {event : ServerEvent} (hevent : event ∈ events) {c : Nat}
    (hpick : event.exchange = pick svcId c) {inst : ServiceInstance}
    (hturn : (turns mode (candidates health instances))[
      c % (turns mode (candidates health instances)).length]? = some inst) :
    PickReturned calls events event inst := by
  obtain ⟨q, hruns⟩ := hinterleaves event.program
  have hmem : pick svcId c ∈ exchangesOf event.program events :=
    mem_exchangesOf.mpr ⟨event, hevent, rfl, hpick⟩
  have hsvc := svcId_of_pick hruns hmem
  have hinstances := hfixed.instances event.program hsvc
  have hselection := hfixed.selection event.program hsvc
  have hhealth : ∀ exchange ∈ exchangesOf event.program events,
      HealthyBy health exchange := by
    intro exchange hexchange
    obtain ⟨other, hother, hprogram, rfl⟩ := mem_exchangesOf.mp hexchange
    apply hfixed.health other hother
    rw [hprogram]
    exact hsvc
  subst hsvc hinstances hselection
  exact SelectionCall.returns_of_pick hruns hhealth hmode hmem hturn

/-- As many picks in a row as there are turns return a rotation of them. -/
theorem window_rotates
    (hinterleaves : Interleaves (fun id => (calls id).program) events)
    (hcounters : CountersAnswer counters events)
    (hfixed : ServiceFixed calls events svcId instances mode health)
    (hmode : TakesTurns mode (candidates health instances))
    {before window after : List ServerEvent}
    (hwindow : picksOf svcId events = before ++ window ++ after)
    (hwrap : (counters.lookup svcId).getD 0 + (before ++ window).length ≤
      2 ^ 64)
    (hlength : window.length =
      (turns mode (candidates health instances)).length) :
    List.Forall₂ (PickReturned calls events) window
      ((turns mode (candidates health instances)).rotate
        ((counters.lookup svcId).getD 0 + before.length)) := by
  apply Rotation.forall₂_rotate hlength
  intro k event inst hk hturn
  have hlt : k < window.length := (List.getElem?_eq_some_iff.mp hk).1
  have hplace : (picksOf svcId events)[before.length + k]? = some event := by
    rw [hwindow, List.append_assoc, List.getElem?_append_right (by omega),
      Nat.add_sub_cancel_left, List.getElem?_append_left hlt, hk]
  have hevent : event ∈ events :=
    List.mem_of_mem_filter (List.mem_of_getElem? hplace)
  rw [List.length_append] at hwrap
  have hpick := hcounters.picks_consecutive hplace (by omega)
  rw [Nat.add_assoc] at hturn
  exact pickReturned_turn hinterleaves hfixed hmode hevent hpick hturn

/-- A call for the service that has returned has made exactly one pick. -/
theorem one_pick_of_returned
    (hfixed : ServiceFixed calls events svcId instances mode health)
    (hmode : TakesTurns mode (candidates health instances)) {id : Nat}
    (hsvc : (calls id).svcId = svcId) {inst : ServiceInstance}
    (h : (calls id).program.Returns (exchangesOf id events) inst) :
    ∃ event, (picksOf svcId events).filter
      (fun event => event.program = id) = [event] := by
  have hhealth : ∀ exchange ∈ exchangesOf id events,
      HealthyBy health exchange := by
    intro exchange hexchange
    obtain ⟨other, hother, hprogram, rfl⟩ := mem_exchangesOf.mp hexchange
    exact hfixed.health other hother (hprogram ▸ hsvc)
  rw [← hfixed.instances id hsvc, ← hfixed.selection id hsvc] at hmode
  obtain ⟨asked, c, hlog, hasked⟩ := (calls id).log_of_returns h hhealth hmode
  -- Whether an event is a pick shows in its exchange alone.
  have hpicks : ((picksOf svcId events).filter
      fun event => event.program = id).map Event.exchange =
        (exchangesOf id events).filter
          fun exchange => isPick svcId ⟨0, 0, exchange⟩ := by
    rw [exchangesOf, List.filter_map, picksOf, List.filter_comm]
    rfl
  have hnone : asked.filter (fun exchange => isPick svcId ⟨0, 0, exchange⟩) =
      [] := by
    refine List.filter_eq_nil_iff.mpr fun exchange hmem hpick => ?_
    obtain ⟨op, reply⟩ := exchange
    cases op with
    | fetchAdd other =>
        obtain rfl : other = svcId := of_decide_eq_true hpick
        exact hasked reply (hsvc.symm ▸ hmem)
    | _ => cases hpick
  rw [hlog, List.filter_append, hnone, hsvc, List.nil_append] at hpicks
  have hone : [pick svcId c].filter
      (fun exchange => isPick svcId ⟨0, 0, exchange⟩) = [pick svcId c] :=
    List.filter_cons_of_pos (decide_eq_true rfl)
  rw [hone] at hpicks
  have hlength := congrArg List.length hpicks
  rw [List.length_map, List.length_singleton] at hlength
  exact List.length_eq_one_iff.mp hlength

end Fairness

/-- Any window of picks is fair, wherever it starts.  The picks of a service
are those of the calls for it, and each that returns makes exactly one. -/
theorem round_robin_fair {calls : Nat → SelectionCall}
    {counters : HashMap String Nat} {events : List ServerEvent}
    (hinterleaves : Interleaves (fun id => (calls id).program) events)
    (hcounters : CountersAnswer counters events) {svcId : String}
    {instances : List ServiceInstance} {mode : InstanceSelection}
    {health : String → Bool}
    (hfixed : ServiceFixed calls events svcId instances mode health)
    {before window after : List ServerEvent}
    (hwindow : picksOf svcId events = before ++ window ++ after)
    (hwrap : (counters.lookup svcId).getD 0 + (before ++ window).length ≤
      2 ^ 64) :
    (mode = .roundRobin →
      window.length = (candidates health instances).length →
        ∃ picked, List.Forall₂ (PickReturned calls events) window picked ∧
          picked.Perm (candidates health instances)) ∧
    (mode = .weightedRoundRobin →
      ((candidates health instances).map ServiceInstance.weight).sum <
        2 ^ 64 →
      window.length =
        ((candidates health instances).map ServiceInstance.weight).sum →
        ∃ picked, List.Forall₂ (PickReturned calls events) window picked ∧
          picked.Perm ((candidates health instances).flatMap fun inst =>
            List.replicate inst.weight inst)) ∧
    (∀ event ∈ picksOf svcId events,
      (calls event.program).svcId = svcId) ∧
    (TakesTurns mode (candidates health instances) →
      ∀ id inst, (calls id).svcId = svcId →
        (calls id).program.Returns (exchangesOf id events) inst →
        ∃ event, (picksOf svcId events).filter
          (fun event => event.program = id) = [event]) := by
  refine ⟨?_, ?_, ?_, ?_⟩
  · rintro rfl hlength
    refine ⟨_, window_rotates hinterleaves hcounters hfixed (.inl rfl) hwindow
      hwrap hlength, ?_⟩
    exact List.rotate_perm _ _
  · rintro rfl hfits hlength
    refine ⟨_, window_rotates hinterleaves hcounters hfixed
      (.inr ⟨rfl, hfits⟩) hwindow hwrap ?_, ?_⟩
    · rw [hlength]
      exact (Rotation.length_expand _ _).symm
    · exact List.rotate_perm _ _
  · intro event hevent
    obtain ⟨hmem, hpick⟩ := List.mem_filter.mp hevent
    obtain ⟨q, hruns⟩ := hinterleaves event.program
    obtain ⟨clock, program, op, reply⟩ := event
    cases op with
    | fetchAdd other =>
        obtain rfl : other = svcId := of_decide_eq_true hpick
        exact svcId_of_pick hruns
          (mem_exchangesOf.mpr ⟨_, hmem, rfl, rfl⟩)
    | _ => cases hpick
  · intro hmode id inst hsvc hreturns
    exact one_pick_of_returned hfixed hmode hsvc hreturns

/-! ## Calls that are overtaken -/

def firstInstance : ServiceInstance where
  host := "10.0.0.1"
  port := 1

def secondInstance : ServiceInstance where
  host := "10.0.0.2"
  port := 2
  metadata := AList.singleton "weight" "2"

def overtakenCalls (mode : InstanceSelection) : Nat → SelectionCall
  | 1 => ⟨[secondInstance], "other", .roundRobin⟩
  | _ => ⟨[firstInstance, secondInstance], "svc", mode⟩

def asksHealth (inst : ServiceInstance) : ServerExchange :=
  ⟨.isHealthy inst.hostPort, true⟩

def asksBoth : List ServerExchange :=
  [asksHealth firstInstance, asksHealth secondInstance]

/-- Calls 2 and 3 pick while call 0 still asks about health. -/
def overtakenEvents : List ServerEvent :=
  eventsAt 0 0 asksBoth ++
  eventsAt 0 1 [asksHealth secondInstance, pick "other" 0] ++
  eventsAt 0 2 (asksBoth ++ [pick "svc" 0]) ++
  eventsAt 0 3 (asksBoth ++ [pick "svc" 1]) ++
  eventsAt 0 0 [pick "svc" 2]

private theorem overtaken_interleaves {mode : InstanceSelection}
    (hmode : mode = .roundRobin ∨ mode = .weightedRoundRobin) :
    Interleaves (fun id => (overtakenCalls mode id).program)
      overtakenEvents := by
  intro id
  match id with
  | 1 => exact ⟨_, .step _ (.step _ (.refl _))⟩
  | 0 | 2 | 3 =>
      rcases hmode with rfl | rfl <;>
        exact ⟨_, .step _ (.step _ (.step _ (.refl _)))⟩
  | id + 4 =>
      have hnone : exchangesOf (id + 4) overtakenEvents = [] := by
        simp [overtakenEvents, exchangesOf_eventsAt]
      rw [hnone]
      exact ⟨_, .refl _⟩

private theorem overtaken_fixed (mode : InstanceSelection) :
    ServiceFixed (overtakenCalls mode) overtakenEvents "svc"
      [firstInstance, secondInstance] mode fun _ => true := by
  constructor
  · intro id hsvc
    match id with
    | 0 => rfl
    | 1 => exact absurd hsvc (show "other" ≠ "svc" by decide)
    | id + 2 => rfl
  · intro id hsvc
    match id with
    | 0 => rfl
    | 1 => exact absurd hsvc (show "other" ≠ "svc" by decide)
    | id + 2 => rfl
  · intro event hevent _
    simp only [overtakenEvents, asksBoth, eventsAt, List.map_cons,
      List.map_nil, List.cons_append, List.nil_append, List.mem_cons,
      List.not_mem_nil, or_false] at hevent
    rcases hevent with rfl | rfl | rfl | rfl | rfl | rfl | rfl | rfl | rfl |
      rfl | rfl <;> trivial

private theorem overtaken_counters : CountersAnswer ∅ overtakenEvents :=
  ⟨trivial, trivial, trivial, rfl, trivial, trivial, rfl, trivial, trivial,
    rfl, rfl, trivial⟩

/-- The first two picks of the round robin, and all three of the weighted one,
where the second instance has twice the weight. -/
theorem round_robin_fair_overtaken :
    (∃ picked, List.Forall₂
        (PickReturned (overtakenCalls .roundRobin) overtakenEvents)
        [⟨0, 2, pick "svc" 0⟩, ⟨0, 3, pick "svc" 1⟩] picked ∧
      picked.Perm [firstInstance, secondInstance]) ∧
    ∃ picked, List.Forall₂
        (PickReturned (overtakenCalls .weightedRoundRobin) overtakenEvents)
        [⟨0, 2, pick "svc" 0⟩, ⟨0, 3, pick "svc" 1⟩, ⟨0, 0, pick "svc" 2⟩]
        picked ∧
      picked.Perm [firstInstance, secondInstance, secondInstance] := by
  have htwo : picksOf "svc" overtakenEvents =
      [] ++ [⟨0, 2, pick "svc" 0⟩, ⟨0, 3, pick "svc" 1⟩] ++
        [⟨0, 0, pick "svc" 2⟩] := rfl
  have hthree : picksOf "svc" overtakenEvents =
      [] ++ [⟨0, 2, pick "svc" 0⟩, ⟨0, 3, pick "svc" 1⟩,
        ⟨0, 0, pick "svc" 2⟩] ++ [] := rfl
  constructor
  · exact (round_robin_fair (overtaken_interleaves (.inl rfl))
      overtaken_counters (overtaken_fixed _) htwo (by decide)).1 rfl rfl
  · have hsum : ((candidates (fun _ => true) [firstInstance,
        secondInstance]).map ServiceInstance.weight).sum = 3 := by decide
    exact (round_robin_fair (overtaken_interleaves (.inr rfl))
      overtaken_counters (overtaken_fixed _) hthree (by decide)).2.1 rfl
        (by rw [hsum]; decide) hsum.symm

end ServiceRouter
