import ServiceRouter.Foundation.Ensures
import ServiceRouter.Server.RoundRobin

/-!
# When choosing an instance can panic

Whether an addition that overflows panics or wraps depends on how the program
is built.  `selectServiceInstanceIn` is the selection with or without overflow
checks; without them it is `selectServiceInstance`.  Only the weighted mode can
panic, and only because of the sum of the weights.
-/

namespace ServiceRouter

open Foundation

/-! ## The selection with or without checks -/

section Checks

variable (checks : Bool)

def addUsize (a b : Nat) : ServerProgram Nat :=
  if checks && 2 ^ 64 ≤ a + b then .abort "attempt to add with overflow"
  else return (a + b) % 2 ^ 64

def sumWeights : Nat → List Nat → ServerProgram Nat
  | total, [] => return total
  | total, w :: weights => do
      let total ← addUsize checks total w
      sumWeights total weights

def scanWeights (c : Nat) : Nat → List Nat → ServerProgram (Option Nat)
  | _, [] => return none
  | cum, w :: weights => do
      let cum ← addUsize checks cum w
      if c < cum then return some 0
      else do
        let later ← scanWeights c cum weights
        return later.map (· + 1)

def weightedRoundRobinPickIn (instances : List ServiceInstance)
    (svcId : String) : ServerProgram ServiceInstance := do
  let weights := instances.map ServiceInstance.weight
  let total ← sumWeights checks 0 weights
  let c ← perform (.fetchAdd svcId)
  let idx ← remOrPanic c total
  let found ← scanWeights checks idx 0 weights
  match found with
  | some i => indexOrPanic instances i
  | none =>
      match instances.getLast? with
      | some inst => return inst
      | none => .abort "non-empty instances"

def healthyIndexIn (healthy : List ServiceInstance) (svcId : String) :
    InstanceSelection → ServerProgram Nat
  | .first => return 0
  | .roundRobin => do
      let c ← perform (.fetchAdd svcId)
      remOrPanic c healthy.length
  | .random => randIndex healthy.length
  | .weightedRoundRobin => do
      let weights := healthy.map ServiceInstance.weight
      let total ← sumWeights checks 0 weights
      let c ← perform (.fetchAdd svcId)
      let c ← remOrPanic c total
      let found ← scanWeights checks c 0 weights
      return found.getD (healthy.length - 1)

def selectServiceInstanceIn (instances : List ServiceInstance)
    (svcId : String) (selection : InstanceSelection) :
    ServerProgram ServiceInstance :=
  if checks && instances.isEmpty then .abort "assertion failed"
  else do
    let healthy ← healthyInstances instances
    if !healthy.isEmpty && healthy.length < instances.length then
      let idx ← healthyIndexIn checks healthy svcId selection
      indexOrPanic healthy idx
    else
      match selection with
      | .first => indexOrPanic instances 0
      | .roundRobin => do
          let c ← perform (.fetchAdd svcId)
          let idx ← remOrPanic c instances.length
          indexOrPanic instances idx
      | .random => do
          let idx ← randIndex instances.length
          indexOrPanic instances idx
      | .weightedRoundRobin =>
          weightedRoundRobinPickIn checks instances svcId

end Checks

theorem sumWeights_false (total : Nat) (weights : List Nat) :
    sumWeights false total weights =
      .done (weights.foldl (fun total w => (total + w) % 2 ^ 64) total) := by
  induction weights generalizing total with
  | nil => rfl
  | cons w weights ih => exact ih _

theorem scanWeights_false (c cum : Nat) (weights : List Nat) :
    scanWeights false c cum weights = .done (firstAbove c cum weights) := by
  induction weights generalizing cum with
  | nil => rfl
  | cons w weights ih =>
      have hstep : scanWeights false c cum (w :: weights) =
          if c < (cum + w) % 2 ^ 64 then .done (some 0)
          else (scanWeights false c ((cum + w) % 2 ^ 64) weights).bind
            fun later => .done (later.map (· + 1)) := rfl
      rw [hstep, ih, firstAbove]
      split
      · rfl
      · rfl

/-- Without checks the additions wrap. -/
theorem selectServiceInstanceIn_false (instances : List ServiceInstance)
    (svcId : String) (selection : InstanceSelection) :
    selectServiceInstanceIn false instances svcId selection =
      selectServiceInstance instances svcId selection := by
  have hpick (items : List ServiceInstance) :
      weightedRoundRobinPickIn false items svcId =
        weightedRoundRobinPick items svcId := by
    unfold weightedRoundRobinPickIn weightedRoundRobinPick
    simp only [sumWeights_false, scanWeights_false, Program.bind_eq,
      Program.done_bind]
    rfl
  have hindex (items : List ServiceInstance) :
      healthyIndexIn false items svcId selection =
        healthyIndex items svcId selection := by
    cases selection with
    | weightedRoundRobin =>
        unfold healthyIndexIn healthyIndex
        simp only [sumWeights_false, scanWeights_false, Program.bind_eq,
          Program.done_bind]
        rfl
    | _ => rfl
  refine congrArg (Program.bind (healthyInstances instances))
    (funext fun healthy => if_congr Iff.rfl ?_ ?_)
  · exact congrArg (Program.bind · _) (hindex healthy)
  · cases selection with
    | weightedRoundRobin => exact hpick instances
    | _ => rfl

/-! ## What the parts ensure -/

/-- The replies about health are what `health` says. -/
def HealthReply (health : String → Bool) (op : ServerInterface.Op)
    (reply : ServerInterface.Reply op) : Prop :=
  HealthyBy health ⟨op, reply⟩

section Parts

variable {health : String → Bool} {checks : Bool}

theorem ensures_perform_bind {α : Type} {op : ServerOp}
    {f : op.Reply → ServerProgram α} {post : α → Prop} :
    ((perform op).bind f).Ensures (HealthReply health) post ↔
      ∀ reply, HealthReply health op reply →
        (f reply).Ensures (HealthReply health) post :=
  Iff.rfl

theorem ensures_healthyInstances {instances : List ServiceInstance}
    {post : List ServiceInstance → Prop} :
    (healthyInstances instances).Ensures (HealthReply health) post ↔
      post (instances.filter fun inst => health inst.hostPort) := by
  induction instances generalizing post with
  | nil => exact Iff.rfl
  | cons inst instances ih =>
      have hrest : ((healthyInstances instances).bind fun others =>
          .done (if health inst.hostPort then inst :: others
            else others)).Ensures (HealthReply health) post ↔
          post ((inst :: instances).filter
            fun inst => health inst.hostPort) := by
        rw [Program.ensures_bind, ih, List.filter_cons]
        exact Iff.rfl
      rw [← hrest]
      constructor
      · intro h
        exact h (health inst.hostPort) rfl
      · rintro h _ rfl
        exact h

theorem ensures_addUsize {a b : Nat} {post : Nat → Prop} :
    (addUsize checks a b).Ensures (HealthReply health) post ↔
      (checks = true → a + b < 2 ^ 64) ∧ post ((a + b) % 2 ^ 64) := by
  unfold addUsize
  split
  · rename_i hover
    simp only [Bool.and_eq_true, decide_eq_true_eq] at hover
    refine iff_of_false (fun h => h) fun h => ?_
    have hfits := h.1 hover.1
    omega
  · rename_i hfits
    simp only [Bool.and_eq_true, decide_eq_true_eq, not_and, not_le] at hfits
    exact (and_iff_right hfits).symm

theorem ensures_sumWeights {total : Nat} {weights : List Nat}
    {post : Nat → Prop} (htotal : total < 2 ^ 64) :
    (sumWeights checks total weights).Ensures (HealthReply health) post ↔
      (checks = true → total + weights.sum < 2 ^ 64) ∧
        post ((total + weights.sum) % 2 ^ 64) := by
  induction weights generalizing total with
  | nil =>
      simp only [sumWeights, List.sum_nil, Nat.add_zero,
        Nat.mod_eq_of_lt htotal, htotal, implies_true, true_and]
      exact Iff.rfl
  | cons w weights ih =>
      have hnext : (total + w) % 2 ^ 64 < 2 ^ 64 :=
        Nat.mod_lt _ (by decide)
      unfold sumWeights
      refine Program.ensures_bind.trans (ensures_addUsize.trans ?_)
      rw [ih hnext, List.sum_cons, ← and_assoc, Nat.mod_add_mod, Nat.add_assoc]
      apply and_congr_left
      intro _
      cases checks with
      | false => simp
      | true =>
          simp only [forall_const]
          omega

theorem ensures_scanWeights {c cum : Nat} {weights : List Nat}
    {post : Option Nat → Prop}
    (hfits : checks = true → cum + weights.sum < 2 ^ 64) :
    (scanWeights checks c cum weights).Ensures (HealthReply health) post ↔
      post (firstAbove c cum weights) := by
  induction weights generalizing cum post with
  | nil => exact Iff.rfl
  | cons w weights ih =>
      rw [List.sum_cons] at hfits
      have hstep : checks = true → cum + w < 2 ^ 64 := fun h => by
        have hsum := hfits h
        omega
      have hrest : checks = true →
          (cum + w) % 2 ^ 64 + weights.sum < 2 ^ 64 := fun h => by
        have hsum := hfits h
        have hmod := Nat.mod_eq_of_lt (hstep h)
        omega
      unfold scanWeights
      refine Program.ensures_bind.trans (ensures_addUsize.trans ?_)
      rw [and_iff_right hstep, firstAbove]
      by_cases hlt : c < (cum + w) % 2 ^ 64
      · rw [if_pos hlt, if_pos hlt]
        exact Iff.rfl
      · rw [if_neg hlt, if_neg hlt]
        exact Program.ensures_bind.trans (ih hrest)

theorem firstAbove_lt {c cum i : Nat} {weights : List Nat}
    (h : firstAbove c cum weights = some i) : i < weights.length := by
  induction weights generalizing cum i with
  | nil => cases h
  | cons w weights ih =>
      rw [firstAbove] at h
      split at h
      · cases h
        exact Nat.zero_lt_succ _
      · obtain ⟨j, hj, rfl⟩ := Option.map_eq_some_iff.mp h
        exact Nat.succ_lt_succ (ih hj)

theorem ensures_remOrPanic {n m : Nat} {post : Nat → Prop} :
    (remOrPanic n m).Ensures (HealthReply health) post ↔
      m ≠ 0 ∧ post (n % m) := by
  unfold remOrPanic
  split
  · rename_i hzero
    exact iff_of_false (fun h => h) fun h => h.1 hzero
  · rename_i hpos
    exact (and_iff_right hpos).symm

theorem ensures_indexOrPanic {items : List ServiceInstance} {i : Nat}
    {post : ServiceInstance → Prop} :
    (indexOrPanic items i).Ensures (HealthReply health) post ↔
      ∃ inst, items[i]? = some inst ∧ post inst := by
  unfold indexOrPanic
  cases items[i]? with
  | none => exact iff_of_false (fun h => h) fun ⟨_, h, _⟩ => by cases h
  | some inst => simp

/-- An index in range is safe to read. -/
theorem ensures_mem_of_lt {items instances : List ServiceInstance} {i : Nat}
    (hsub : items ⊆ instances) (hlt : i < items.length) :
    (indexOrPanic items i).Ensures (HealthReply health) (· ∈ instances) := by
  apply ensures_indexOrPanic.mpr
  exact ⟨items[i], List.getElem?_eq_getElem hlt,
    hsub (List.getElem_mem hlt)⟩

end Parts

/-! ## The modes -/

/-- The sum of the weights raises no overflow panic and is not zero after
wrapping. -/
def SumUsable (checks : Bool) (mode : InstanceSelection)
    (items : List ServiceInstance) : Prop :=
  mode = .weightedRoundRobin →
    (checks = true → (items.map ServiceInstance.weight).sum < 2 ^ 64) ∧
      (items.map ServiceInstance.weight).sum % 2 ^ 64 ≠ 0

section Modes

variable {health : String → Bool} {checks : Bool}
  {items instances : List ServiceInstance} {svcId : String}

theorem sumUsable_of_ne {mode : InstanceSelection}
    (hmode : mode ≠ .weightedRoundRobin) : SumUsable checks mode items :=
  fun h => absurd h hmode

theorem sumUsable_weighted :
    SumUsable checks .weightedRoundRobin items ↔
      (checks = true → (items.map ServiceInstance.weight).sum < 2 ^ 64) ∧
        (items.map ServiceInstance.weight).sum % 2 ^ 64 ≠ 0 := by
  simp [SumUsable]

theorem ensures_weightedTurn {α : Type} {post : α → Prop} {weights : List Nat}
    {next : Option Nat → ServerProgram α}
    (hnext : ∀ found, (∀ i, found = some i → i < weights.length) →
      (next found).Ensures (HealthReply health) post) :
    ((sumWeights checks 0 weights).bind fun total =>
      (perform (.fetchAdd svcId)).bind fun c =>
        (remOrPanic c total).bind fun idx =>
          (scanWeights checks idx 0 weights).bind next).Ensures
        (HealthReply health) post ↔
      (checks = true → weights.sum < 2 ^ 64) ∧ weights.sum % 2 ^ 64 ≠ 0 := by
  rw [Program.ensures_bind, ensures_sumWeights (by decide), Nat.zero_add]
  apply and_congr_right
  intro hfits
  constructor
  · intro h
    have hzero := ensures_perform_bind.mp h (0 : Nat) trivial
    exact (ensures_remOrPanic.mp (Program.ensures_bind.mp hzero)).1
  · intro hpos
    apply ensures_perform_bind.mpr
    intro c _
    apply Program.ensures_bind.mpr
    refine ensures_remOrPanic.mpr ⟨hpos, ?_⟩
    apply Program.ensures_bind.mpr
    apply (ensures_scanWeights (by rwa [Nat.zero_add])).mpr
    exact hnext _ fun i hi => firstAbove_lt hi

theorem ensures_rem_mem {n : Nat} (hsub : items ⊆ instances)
    (hne : items ≠ []) :
    ((remOrPanic n items.length).bind (indexOrPanic items)).Ensures
      (HealthReply health) (· ∈ instances) := by
  have hpos : 0 < items.length := List.length_pos_iff.mpr hne
  apply Program.ensures_bind.mpr
  apply ensures_remOrPanic.mpr
  exact ⟨by omega, ensures_mem_of_lt hsub (Nat.mod_lt n hpos)⟩

theorem ensures_healthyIndexIn {mode : InstanceSelection}
    (hsub : items ⊆ instances) (hne : items ≠ []) :
    ((healthyIndexIn checks items svcId mode).bind
      (indexOrPanic items)).Ensures (HealthReply health) (· ∈ instances) ↔
      SumUsable checks mode items := by
  have hpos : 0 < items.length := List.length_pos_iff.mpr hne
  cases mode with
  | first =>
      exact iff_of_true (ensures_mem_of_lt hsub hpos)
        (sumUsable_of_ne (by decide))
  | roundRobin =>
      refine iff_of_true ?_ (sumUsable_of_ne (by decide))
      intro c _
      exact ensures_rem_mem hsub hne
  | random =>
      refine iff_of_true ?_ (sumUsable_of_ne (by decide))
      intro c _
      exact ensures_rem_mem hsub hne
  | weightedRoundRobin =>
      refine Program.ensures_bind.trans
        ((ensures_weightedTurn ?_).trans sumUsable_weighted.symm)
      intro found hfound
      apply ensures_mem_of_lt hsub
      cases found with
      | none =>
          rw [Option.getD_none]
          omega
      | some i => simpa using hfound i rfl

theorem ensures_weightedRoundRobinPickIn (hne : instances ≠ []) :
    (weightedRoundRobinPickIn checks instances svcId).Ensures
      (HealthReply health) (· ∈ instances) ↔
      SumUsable checks .weightedRoundRobin instances := by
  refine (ensures_weightedTurn ?_).trans sumUsable_weighted.symm
  intro found hfound
  cases found with
  | some i =>
      apply ensures_mem_of_lt (List.Subset.refl instances)
      simpa using hfound i rfl
  | none =>
      cases hlast : instances.getLast? with
      | none => exact absurd (List.getLast?_eq_none_iff.mp hlast) hne
      | some inst => exact List.mem_of_getLast? hlast

theorem candidates_subset (health : String → Bool)
    (instances : List ServiceInstance) :
    candidates health instances ⊆ instances := by
  unfold candidates
  dsimp only
  split
  · exact List.filter_subset_self _
  · exact List.Subset.refl _

theorem selectServiceInstanceIn_ensures_iff {mode : InstanceSelection}
    (hne : instances ≠ []) :
    (selectServiceInstanceIn checks instances svcId mode).Ensures
      (HealthReply health) (· ∈ instances) ↔
      SumUsable checks mode (candidates health instances) := by
  have hempty : ¬(checks && instances.isEmpty) = true := by
    simp [hne]
  have hsame := List.Subset.refl instances
  unfold selectServiceInstanceIn
  rw [if_neg hempty]
  refine Program.ensures_bind.trans (ensures_healthyInstances.trans ?_)
  have hsub := candidates_subset health instances
  have hcandidates := candidates_ne_nil health hne
  unfold candidates at hsub hcandidates ⊢
  dsimp only at hsub hcandidates ⊢
  split
  · rename_i hsome
    rw [if_pos hsome] at hsub hcandidates
    exact ensures_healthyIndexIn hsub hcandidates
  · have hindex (mode : InstanceSelection) :
        ((healthyIndexIn checks instances svcId mode).bind
          (indexOrPanic instances)).Ensures (HealthReply health)
            (· ∈ instances) ↔ SumUsable checks mode instances :=
      ensures_healthyIndexIn hsame hne
    cases mode with
    | first => exact hindex .first
    | roundRobin => exact hindex .roundRobin
    | random => exact hindex .random
    | weightedRoundRobin => exact ensures_weightedRoundRobinPickIn hne

end Modes

/-! ## Which selections are safe -/

theorem weights_sum_pos {items : List ServiceInstance} (hne : items ≠ []) :
    0 < (items.map ServiceInstance.weight).sum := by
  cases items with
  | nil => exact absurd rfl hne
  | cons inst items =>
      have hweight : 1 ≤ inst.weight := Nat.le_max_right _ _
      rw [List.map_cons, List.sum_cons]
      omega

theorem sumUsable_forall_iff {items : List ServiceInstance}
    {mode : InstanceSelection} (hne : items ≠ []) :
    (∀ checks, SumUsable checks mode items) ↔
      (mode = .weightedRoundRobin →
        (items.map ServiceInstance.weight).sum < 2 ^ 64) := by
  constructor
  · intro h hmode
    exact (h true hmode).1 rfl
  · intro h checks hmode
    have hfits := h hmode
    have hpos := weights_sum_pos hne
    rw [Nat.mod_eq_of_lt hfits]
    exact ⟨fun _ => hfits, by omega⟩

/-- The selection returns one of the instances, however the program is built,
when the weights it sums fit in a `usize`; without overflow checks, when their
sum does not wrap to zero. -/
theorem selection_safe_iff {instances : List ServiceInstance}
    (hne : instances ≠ []) (svcId : String) (mode : InstanceSelection)
    (health : String → Bool) :
    ((∀ checks, (selectServiceInstanceIn checks instances svcId mode).Ensures
        (HealthReply health) (· ∈ instances)) ↔
      (mode = .weightedRoundRobin →
        ((candidates health instances).map ServiceInstance.weight).sum <
          2 ^ 64)) ∧
    ((selectServiceInstance instances svcId mode).Ensures
        (HealthReply health) (· ∈ instances) ↔
      (mode = .weightedRoundRobin →
        ((candidates health instances).map ServiceInstance.weight).sum %
          2 ^ 64 ≠ 0)) := by
  constructor
  · simp only [selectServiceInstanceIn_ensures_iff hne]
    exact sumUsable_forall_iff (candidates_ne_nil health hne)
  · rw [← selectServiceInstanceIn_false,
      selectServiceInstanceIn_ensures_iff hne]
    simp [SumUsable]

/-- The weight is `2 ^ 63`. -/
def heavyInstance (host : String) : ServiceInstance where
  host := host
  port := 80
  metadata := (∅ : HashMap String String).insert "weight"
    "9223372036854775808"

def heavyInstances : List ServiceInstance :=
  [heavyInstance "a", heavyInstance "b"]

private theorem weight_heavyInstance (host : String) :
    (heavyInstance host).weight = 2 ^ 63 := by
  have hparse : parseUsize "9223372036854775808" = some (2 ^ 63) := by
    decide +kernel
  have hlookup : (heavyInstance host).metadata.lookup "weight" =
      some "9223372036854775808" := AList.lookup_insert _
  rw [ServiceInstance.weight, hlookup, Option.bind_some, hparse]
  rfl

/-- A sum that wraps to zero panics once the counter is read. -/
private theorem weightedRoundRobinPick_panics
    {instances : List ServiceInstance}
    (hzero : totalWeight (instances.map ServiceInstance.weight) = 0)
    (svcId : String) (c : Nat) :
    (weightedRoundRobinPick instances svcId).Runs [pick svcId c]
      (.abort "remainder with a divisor of zero") := by
  have hrem : remOrPanic c
      (totalWeight (instances.map ServiceInstance.weight)) =
        .abort "remainder with a divisor of zero" := if_pos hzero
  have hnext : ∃ next : Nat → ServerProgram ServiceInstance,
      weightedRoundRobinPick instances svcId =
        .call (.fetchAdd svcId) next ∧
      next c = .abort "remainder with a divisor of zero" := by
    refine ⟨_, rfl, ?_⟩
    exact congrArg (Program.bind · _) hrem
  obtain ⟨next, hcall, habort⟩ := hnext
  rw [hcall]
  apply Program.Runs.step
  rw [habort]
  exact .refl _

/-- Only one of the two is a candidate. -/
theorem selection_safe_heavy :
    (selectServiceInstance heavyInstances "svc" .weightedRoundRobin).Ensures
      (HealthReply fun key => key = "a:80") (· ∈ heavyInstances) := by
  refine (selection_safe_iff (by decide) _ _ _).2.mpr fun _ => ?_
  have hcandidates : candidates (fun key => key = "a:80") heavyInstances =
      [heavyInstance "a"] := rfl
  rw [hcandidates]
  simp [weight_heavyInstance]

theorem selection_panics_heavy :
    (selectServiceInstance heavyInstances "svc" .weightedRoundRobin).Runs
      [⟨.isHealthy "a:80", true⟩, ⟨.isHealthy "b:80", true⟩, pick "svc" 0]
      (.abort "remainder with a divisor of zero") ∧
    (selectServiceInstanceIn true heavyInstances "svc"
        .weightedRoundRobin).Runs
      [⟨.isHealthy "a:80", true⟩, ⟨.isHealthy "b:80", true⟩]
      (.abort "attempt to add with overflow") ∧
    heavyInstances ≠ [] ∧
    ¬ (selectServiceInstance heavyInstances "svc" .weightedRoundRobin).Ensures
      (HealthReply fun _ => true) (· ∈ heavyInstances) := by
  have hweights : heavyInstances.map ServiceInstance.weight =
      [2 ^ 63, 2 ^ 63] := by
    simp [heavyInstances, weight_heavyInstance]
  have hzero : totalWeight
      (heavyInstances.map ServiceInstance.weight) = 0 := by
    rw [hweights]
    rfl
  have hsum : (weightedRoundRobinPickIn true heavyInstances "svc").Runs []
      (.abort "attempt to add with overflow") := by
    unfold weightedRoundRobinPickIn
    rw [hweights]
    exact .refl _
  have hruns : (selectServiceInstance heavyInstances "svc"
      .weightedRoundRobin).Runs
        [⟨.isHealthy "a:80", true⟩, ⟨.isHealthy "b:80", true⟩, pick "svc" 0]
        (.abort "remainder with a divisor of zero") :=
    .step _ (.step _ (weightedRoundRobinPick_panics hzero "svc" 0))
  refine ⟨hruns, .step _ (.step _ hsum), by decide, fun hsafe => ?_⟩
  apply hsafe.of_runs hruns
  simp only [List.forall_mem_cons]
  exact ⟨rfl, rfl, trivial, by simp⟩

end ServiceRouter
