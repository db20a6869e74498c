import ServiceRouter.Server.AppState
import ServiceRouter.Server.SelectionSafety

/-!
# Selecting among the healthy instances

Choosing an instance while some are unhealthy is the same as choosing from the
healthy ones alone.  When none is healthy the choice is made as if all were.
-/

namespace ServiceRouter

open Foundation

/-! ## The choice after the questions about health -/

/-- The two copies of the weighted choice agree. -/
private theorem weightedRoundRobinPick_eq {healthy : List ServiceInstance}
    (hne : healthy ≠ []) (svcId : String) :
    (healthyIndex healthy svcId .weightedRoundRobin).bind
        (indexOrPanic healthy) =
      weightedRoundRobinPick healthy svcId := by
  refine congrArg (Program.call _) (funext fun c => ?_)
  have hlast : healthy[healthy.length - 1]? =
      some (healthy.getLast hne) := by
    rw [← List.getLast?_eq_getElem?, List.getLast?_eq_some_getLast hne]
  change Program.bind (Program.bind (remOrPanic c _) _) _ =
    Program.bind (remOrPanic c _) _
  rw [Program.bind_assoc]
  congr 1
  funext idx
  rw [Program.pure_eq, Program.done_bind]
  cases firstAbove idx 0 (healthy.map ServiceInstance.weight) with
  | some i => rfl
  | none =>
      rw [Option.getD_none, indexOrPanic_of_getElem? hlast,
        List.getLast?_eq_some_getLast hne]
      rfl

/-- From the healthy instances, or from all when that is the same list. -/
theorem selectAmong_of_healthy {instances healthy : List ServiceInstance}
    (hne : healthy ≠ []) (hsub : healthy.Sublist instances) (svcId : String)
    (mode : InstanceSelection) :
    selectAmong instances healthy svcId mode =
      selectAmong healthy healthy svcId mode := by
  rcases hsub.length_le.eq_or_lt with hlength | hlength
  · rw [hsub.eq_of_length hlength]
  · have hsome : (!healthy.isEmpty && healthy.length < instances.length) =
        true := by
      simp [hne, hlength]
    have hall : ¬(!healthy.isEmpty && healthy.length < healthy.length) =
        true := by
      simp
    unfold selectAmong
    rw [if_pos hsome, if_neg hall]
    cases mode with
    | weightedRoundRobin => exact weightedRoundRobinPick_eq hne svcId
    | _ => rfl

theorem selectAmong_nil (instances : List ServiceInstance) (svcId : String)
    (mode : InstanceSelection) :
    selectAmong instances [] svcId mode =
      selectAmong instances instances svcId mode := by
  unfold selectAmong
  rw [if_neg (by simp), if_neg (by simp)]

/-! ## Serving a selection -/

namespace Serving

def healthyAmong (s : Serving) (instances : List ServiceInstance) :
    List ServiceInstance :=
  instances.filter fun inst => s.state.healthStatus.isHealthy inst.hostPort

/-- The same server with no key marked. -/
def allHealthy (s : Serving) : Serving :=
  { s with state := { s.state with healthStatus := .new } }

end Serving

section Serve

variable (P : Platform) (world : World)

def serveSelection (s : Serving) (instances : List ServiceInstance)
    (svcId : String) (mode : InstanceSelection) :
    Program.Outcome ServerInterface Serving ServiceInstance :=
  Program.serve (Serving.answer P world) s
    (selectServiceInstance instances svcId mode)

theorem serve_healthyInstances (s : Serving)
    (instances : List ServiceInstance) :
    let outcome := Program.serve (Serving.answer P world) s
      (healthyInstances instances)
    outcome.state = s ∧ outcome.result = some (s.healthyAmong instances) := by
  induction instances with
  | nil => exact ⟨rfl, rfl⟩
  | cons inst instances ih =>
      have hrest := Program.serve_bind (I := ServerInterface) ih.2
        fun others => .done (if s.state.healthStatus.isHealthy inst.hostPort
          then inst :: others else others)
      have hfilter : some (s.healthyAmong (inst :: instances)) = _ :=
        congrArg some List.filter_cons
      exact ⟨(congrArg Program.Outcome.state hrest).trans ih.1,
        (congrArg Program.Outcome.result hrest).trans hfilter.symm⟩

/-- What follows the questions about health is served from the same state. -/
theorem serveSelection_eq (s : Serving) (instances : List ServiceInstance)
    (svcId : String) (mode : InstanceSelection) :
    let outcome := serveSelection P world s instances svcId mode
    let rest := Program.serve (Serving.answer P world) s
      (selectAmong instances (s.healthyAmong instances) svcId mode)
    outcome.result = rest.result ∧ outcome.state = rest.state := by
  obtain ⟨hstate, hresult⟩ := serve_healthyInstances P world s instances
  have hbind := Program.serve_bind (I := ServerInterface) hresult
    fun healthy => selectAmong instances healthy svcId mode
  dsimp only at hbind ⊢
  rw [hstate] at hbind
  have hsame := congrArg Program.Outcome.result hbind
  have hleft := congrArg Program.Outcome.state hbind
  exact ⟨hsame, hleft⟩

theorem answer_allHealthy :
    Program.AnswersAlike (I := ServerInterface) (Serving.answer P world)
      (Serving.answer P world) (fun s t => t = s.allHealthy)
      fun op : ServerOp => ∀ key, op ≠ .isHealthy key := by
  rintro s t op rfl hop
  cases op with
  | isHealthy key => exact absurd rfl (hop key)
  | _ => exact ⟨rfl, rfl⟩

/-- The same choice, and the same state but for the marks. -/
def SelectsAlike (s : Serving) (instances instances' : List ServiceInstance)
    (svcId : String) (mode : InstanceSelection) : Prop :=
  let outcome := serveSelection P world s instances svcId mode
  let outcome' := serveSelection P world s.allHealthy instances' svcId mode
  outcome'.result = outcome.result ∧
    outcome'.state = outcome.state.allHealthy

theorem healthyAmong_allHealthy (s : Serving)
    (instances : List ServiceInstance) :
    s.allHealthy.healthyAmong instances = instances :=
  List.filter_eq_self.mpr fun _ _ => rfl

theorem selectsAlike_of_selectAmong {s : Serving}
    {instances instances' : List ServiceInstance} {svcId : String}
    {mode : InstanceSelection}
    (h : selectAmong instances (s.healthyAmong instances) svcId mode =
      selectAmong instances' instances' svcId mode) :
    SelectsAlike P world s instances instances' svcId mode := by
  have hasks : (selectAmong instances' instances' svcId mode).OnlyAsks
      fun op : ServerOp => ∀ key, op ≠ .isHealthy key := by
    apply selectAmong_onlyAsks
    · intro key hop
      cases hop
    · intro len key hop
      cases hop
  have hmarked := serveSelection_eq P world s instances svcId mode
  have hhealthy := serveSelection_eq P world s.allHealthy instances' svcId mode
  rw [healthyAmong_allHealthy] at hhealthy
  rw [h] at hmarked
  have halike := Program.serve_alike (answer_allHealthy P world) hasks
    (s := s) (t := s.allHealthy) rfl
  exact ⟨hhealthy.1.trans (halike.2.1.symm.trans hmarked.1.symm),
    hhealthy.2.trans
      (halike.2.2.trans (congrArg Serving.allHealthy hmarked.2.symm))⟩

theorem candidates_of_healthy (items : List ServiceInstance) :
    candidates (fun _ => true) items = items := by
  simp [candidates]

theorem healthStatus_answer (s : Serving) (op : ServerOp) :
    (s.answer P world op).2.state.healthStatus = s.state.healthStatus := by
  cases op <;> rfl

/-- With every instance healthy the selection returns one of them. -/
theorem exists_serveSelection (s : Serving) {items : List ServiceInstance}
    (hne : items ≠ []) (svcId : String) {mode : InstanceSelection}
    (hfits : mode = .weightedRoundRobin →
      (items.map ServiceInstance.weight).sum < 2 ^ 64) :
    ∃ inst, (serveSelection P world s.allHealthy items svcId mode).result =
      some inst ∧ inst ∈ items := by
  have husable := (sumUsable_forall_iff hne).mpr hfits false
  rw [← candidates_of_healthy items] at husable
  have hsafe : (selectServiceInstanceIn false items svcId mode).Ensures
      (HealthReply fun _ => true) (· ∈ items) :=
    (selectServiceInstanceIn_ensures_iff hne).mpr husable
  rw [selectServiceInstanceIn_false] at hsafe
  refine hsafe.of_serve (fun s : Serving => s.state.healthStatus = .new) ?_
    ?_ rfl
  · intro s op hs
    exact (healthStatus_answer P world s op).trans hs
  · intro s op hs
    cases op with
    | isHealthy key =>
        have hkey : s.state.healthStatus.isHealthy key = true := by
          rw [hs]
          rfl
        exact hkey
    | _ => trivial

end Serve

/-- While some instance is healthy, the choice is that from the healthy ones
alone; it is one of them, unless their weights overflow.  When none is, it is
the choice with all of them healthy. -/
theorem selection_ignores_unhealthy (P : Platform) (world : World)
    (s : Serving) (instances : List ServiceInstance) (svcId : String)
    (mode : InstanceSelection) :
    (s.healthyAmong instances ≠ [] →
      SelectsAlike P world s instances (s.healthyAmong instances) svcId
        mode ∧
      ((mode = .weightedRoundRobin →
          ((s.healthyAmong instances).map ServiceInstance.weight).sum <
            2 ^ 64) →
        ∃ inst, (serveSelection P world s instances svcId mode).result =
            some inst ∧
          inst ∈ instances ∧
          s.state.healthStatus.isHealthy inst.hostPort = true)) ∧
    (s.healthyAmong instances = [] →
      SelectsAlike P world s instances instances svcId mode) := by
  constructor
  · intro hsome
    have hsub : (s.healthyAmong instances).Sublist instances :=
      List.filter_sublist
    have halike := selectsAlike_of_selectAmong P world
      (selectAmong_of_healthy hsome hsub svcId mode)
    refine ⟨halike, fun hfits => ?_⟩
    obtain ⟨inst, hresult, hmem⟩ :=
      exists_serveSelection P world s hsome svcId hfits
    exact ⟨inst, halike.1.symm.trans hresult, List.mem_filter.mp hmem⟩
  · intro hnone
    apply selectsAlike_of_selectAmong
    rw [hnone, selectAmong_nil]

/-- A world without upstreams. -/
def silentWorld : World where
  uuid := "id"
  randomHash _ := 0
  clock _ := 0
  upstream _ _ _ := .error "refused"
  websocket _ _ := .error "refused"

/-- One of two instances is marked. -/
def halfMarked : Serving where
  state := { AppState.new ⟨[]⟩ (.new [] .priority) {} 30 {} with
    healthStatus := HealthStatus.new.recordFailure "10.0.0.1:1" 1 }
  contacts := 0

theorem selection_ignores_unhealthy_halfMarked :
    SelectsAlike .plain silentWorld halfMarked
        [firstInstance, secondInstance] [secondInstance] "svc" .roundRobin ∧
      ∃ inst, (serveSelection .plain silentWorld halfMarked
          [firstInstance, secondInstance] "svc" .roundRobin).result =
            some inst ∧
        inst ∈ [firstInstance, secondInstance] ∧
        halfMarked.state.healthStatus.isHealthy inst.hostPort = true := by
  have hhealthy : halfMarked.healthyAmong [firstInstance, secondInstance] =
      [secondInstance] := rfl
  have h := (selection_ignores_unhealthy .plain silentWorld halfMarked
    [firstInstance, secondInstance] "svc" .roundRobin).1
  rw [hhealthy] at h
  have hboth := h (by decide)
  exact ⟨hboth.1, hboth.2 fun hmode => by cases hmode⟩

end ServiceRouter
