import ServiceRouter.Config.Model
import ServiceRouter.Error
import ServiceRouter.Foundation.KeepFirst
import ServiceRouter.Foundation.StableSort
import ServiceRouter.Registry.Instance

/-!
# Resolving a service through several registries

A resolver keeps its registries in ascending priority.  In priority mode the
first registry with instances answers, in merge mode all answers are joined and
repeated endpoints dropped.
-/

namespace ServiceRouter

open Foundation

/-- What a registry answers while a service is being resolved. -/
structure ServiceRegistry where
  getHealthyInstances :
    String → Except RegistryError (List ServiceInstance)

structure MultiRegistryResolver where
  registries : List (Nat × ServiceRegistry)
  queryMode : RegistryQueryMode
  sorted : registries.Pairwise fun a b => a.1 ≤ b.1

namespace MultiRegistryResolver

def new (registries : List (Nat × ServiceRegistry))
    (queryMode : RegistryQueryMode) : MultiRegistryResolver where
  registries := sortByKey Prod.fst registries
  queryMode := queryMode
  sorted := by
    have htrue : registries.Pairwise fun _ _ => True :=
      List.pairwise_of_forall fun _ _ => trivial
    exact (pairwise_sortByKey Prod.fst htrue).imp fun h => h.1

/-- Try the registries in order; errors and empty answers are passed over. -/
def resolvePriority (serviceId : String) :
    List (Nat × ServiceRegistry) →
      Except RegistryError (List ServiceInstance)
  | [] => .error (.allFailed serviceId)
  | (_, registry) :: registries =>
      match registry.getHealthyInstances serviceId with
      | .ok instances =>
          if !instances.isEmpty then .ok instances
          else resolvePriority serviceId registries
      | .error _ => resolvePriority serviceId registries

def instanceKey (inst : ServiceInstance) : String × Nat :=
  (inst.host, inst.port)

def mergeResult
    (state : List (String × Nat) × List ServiceInstance) :
    Except RegistryError (List ServiceInstance) →
      List (String × Nat) × List ServiceInstance
  | .ok instances => instances.foldl (keepUnseen instanceKey) state
  | .error _ => state

/-- Query all registries; their results come back in order. -/
def resolveMerge (serviceId : String)
    (registries : List (Nat × ServiceRegistry)) :
    Except RegistryError (List ServiceInstance) :=
  let results := registries.map fun entry =>
    entry.2.getHealthyInstances serviceId
  let merged := (results.foldl mergeResult ([], [])).2
  if merged.isEmpty then .error (.allFailed serviceId) else .ok merged

def resolve (resolver : MultiRegistryResolver) (serviceId : String) :
    Except RegistryError (List ServiceInstance) :=
  match resolver.queryMode with
  | .priority => resolvePriority serviceId resolver.registries
  | .merge => resolveMerge serviceId resolver.registries

/-! ## What the two modes compute -/

/-- The answers of the registries, in stable priority order. -/
def outcomes (registries : List (Nat × ServiceRegistry))
    (serviceId : String) :
    List (Except RegistryError (List ServiceInstance)) :=
  (stableOrder Prod.fst registries).map fun i =>
    (registries.get i).2.getHealthyInstances serviceId

def nonEmptyAnswer :
    Except RegistryError (List ServiceInstance) →
      Option (List ServiceInstance)
  | .ok [] => none
  | .ok instances => some instances
  | .error _ => none

def answeredInstances :
    Except RegistryError (List ServiceInstance) → List ServiceInstance
  | .ok instances => instances
  | .error _ => []

theorem map_answers_new (registries : List (Nat × ServiceRegistry))
    (queryMode : RegistryQueryMode) (serviceId : String) :
    ((new registries queryMode).registries.map fun entry =>
      entry.2.getHealthyInstances serviceId) =
      outcomes registries serviceId := by
  have hregistries : (new registries queryMode).registries =
      sortByKey Prod.fst registries := rfl
  rw [hregistries, sortByKey_eq_map_stableOrder, List.map_map]
  rfl

theorem resolvePriority_eq (serviceId : String)
    (registries : List (Nat × ServiceRegistry)) :
    resolvePriority serviceId registries =
      match (registries.map fun entry =>
        entry.2.getHealthyInstances serviceId).findSome? nonEmptyAnswer with
      | some instances => .ok instances
      | none => .error (.allFailed serviceId) := by
  induction registries with
  | nil => rfl
  | cons entry registries ih =>
      obtain ⟨priority, registry⟩ := entry
      rw [resolvePriority, List.map_cons, List.findSome?_cons]
      cases registry.getHealthyInstances serviceId with
      | error e => exact ih
      | ok instances =>
          cases instances with
          | nil => exact ih
          | cons inst instances => rfl

private theorem foldl_mergeResult
    (results : List (Except RegistryError (List ServiceInstance)))
    (state : List (String × Nat) × List ServiceInstance) :
    results.foldl mergeResult state =
      (results.flatMap answeredInstances).foldl (keepUnseen instanceKey)
        state := by
  induction results generalizing state with
  | nil => rfl
  | cons result results ih =>
      rw [List.foldl_cons, ih, List.flatMap_cons, List.foldl_append]
      cases result <;> rfl

theorem resolveMerge_eq (serviceId : String)
    (registries : List (Nat × ServiceRegistry)) :
    resolveMerge serviceId registries =
      let merged := keepFirst instanceKey ((registries.map fun entry =>
        entry.2.getHealthyInstances serviceId).flatMap answeredInstances)
      if merged = [] then .error (.allFailed serviceId) else .ok merged := by
  simp only [resolveMerge, foldl_mergeResult, foldl_keepUnseen_nil,
    List.isEmpty_iff]

/-- The first nonempty answer comes first in the joined answers. -/
theorem exists_flatMap_of_findSome?
    {results : List (Except RegistryError (List ServiceInstance))}
    {instances : List ServiceInstance}
    (h : results.findSome? nonEmptyAnswer = some instances) :
    instances ≠ [] ∧
      ∃ rest, results.flatMap answeredInstances = instances ++ rest := by
  induction results with
  | nil => cases h
  | cons result results ih =>
      rw [List.findSome?_cons] at h
      rw [List.flatMap_cons]
      cases result with
      | error e => exact ih h
      | ok answered =>
          cases answered with
          | nil => exact ih h
          | cons inst answered =>
              cases h
              exact ⟨List.cons_ne_nil _ _, _, rfl⟩

theorem flatMap_eq_nil_of_findSome?
    {results : List (Except RegistryError (List ServiceInstance))}
    (h : results.findSome? nonEmptyAnswer = none) :
    results.flatMap answeredInstances = [] := by
  rw [List.flatMap_eq_nil_iff]
  intro result hresult
  have hnone := List.findSome?_eq_none_iff.mp h result hresult
  cases result with
  | error e => rfl
  | ok instances =>
      cases instances with
      | nil => rfl
      | cons inst instances => cases hnone

/-! ## The two modes compared -/

/-- In either mode the registries answer in stable priority order.  Priority
mode returns the first nonempty answer and merge mode the joined answers
without repeated endpoints; both fail exactly if no instance is answered, and
the priority result without repeated endpoints starts the merged one. -/
theorem resolve_priority_and_merge
    (registries : List (Nat × ServiceRegistry)) (serviceId : String) :
    let order := stableOrder Prod.fst registries
    let answers := order.map fun i =>
      (registries.get i).2.getHealthyInstances serviceId
    let joined := keepFirst instanceKey (answers.flatMap answeredInstances)
    let prioritized := (new registries .priority).resolve serviceId
    let merged := (new registries .merge).resolve serviceId
    (order.Pairwise (PositionBefore Prod.fst registries) ∧ ∀ i, i ∈ order) ∧
      prioritized = (match answers.findSome? nonEmptyAnswer with
        | some instances => .ok instances
        | none => .error (.allFailed serviceId)) ∧
      merged = (if joined = [] then .error (.allFailed serviceId)
        else .ok joined) ∧
      ((∃ instances, prioritized = .ok instances) ↔
        ∃ instances, merged = .ok instances) ∧
      prioritized ≠ .ok [] ∧ merged ≠ .ok [] ∧
      ∀ xs ys, prioritized = .ok xs → merged = .ok ys →
        keepFirst instanceKey xs <+: ys := by
  intro order answers joined prioritized merged
  have hprioritized : prioritized =
      match answers.findSome? nonEmptyAnswer with
      | some instances => .ok instances
      | none => .error (.allFailed serviceId) := by
    have heq := resolvePriority_eq serviceId
      (new registries .priority).registries
    rw [map_answers_new] at heq
    exact heq
  have hmerged : merged =
      if joined = [] then .error (.allFailed serviceId) else .ok joined := by
    have heq := resolveMerge_eq serviceId (new registries .merge).registries
    simp only [map_answers_new] at heq
    exact heq
  refine ⟨⟨pairwise_stableOrder _ _, mem_stableOrder _ _⟩, hprioritized,
    hmerged, ?_⟩
  cases hfirst : answers.findSome? nonEmptyAnswer with
  | none =>
      have hjoined : joined = [] :=
        keepFirst_eq_nil.mpr (flatMap_eq_nil_of_findSome? hfirst)
      rw [hfirst] at hprioritized
      rw [if_pos hjoined] at hmerged
      simp [hprioritized, hmerged]
  | some instances =>
      obtain ⟨hnonempty, rest, hrest⟩ := exists_flatMap_of_findSome? hfirst
      have hjoined : joined ≠ [] := by
        intro hnil
        have hflat := keepFirst_eq_nil.mp hnil
        rw [hrest] at hflat
        exact hnonempty (List.append_eq_nil_iff.mp hflat).1
      rw [hfirst] at hprioritized
      rw [if_neg hjoined] at hmerged
      rw [hprioritized, hmerged]
      refine ⟨⟨fun _ => ⟨_, rfl⟩, fun _ => ⟨_, rfl⟩⟩, ?_, ?_, ?_⟩
      · simpa using hnonempty
      · simpa using hjoined
      · rintro xs ys hxs hys
        cases hxs
        cases hys
        have hprefix := keepFirst_prefix instanceKey instances rest
        rw [← hrest] at hprefix
        exact hprefix

end MultiRegistryResolver

end ServiceRouter
