import ServiceRouter.Registry.ReportedInstances

/-!
# Which instances a resolution returns

The resolver answers exactly what the registries have reported to it.  In
priority mode the first registry with anything to report decides; in merge mode
each reported endpoint is answered once, from the first registry that has it.
-/

namespace ServiceRouter

open Foundation

open MultiRegistryResolver (answeredInstances instanceKey)

/-- The registries are asked in turn: the first to which anything is reported
decides. -/
inductive PriorityOutcome (serviceId : String) :
    List (Nat × ConnectedRegistry) → List RegistryExchange →
      RegistryAnswer → Prop
  | exhausted : PriorityOutcome serviceId [] [] (.error (.allFailed serviceId))
  | passed {entry : Nat × ConnectedRegistry}
      {registries : List (Nat × ConnectedRegistry)}
      {own rest : List RegistryExchange} {result : RegistryAnswer}
      (hnothing : ∀ inst, ¬ entry.2.Reports serviceId own inst)
      (hrest : PriorityOutcome serviceId registries rest result) :
      PriorityOutcome serviceId (entry :: registries) (own ++ rest) result
  | found {entry : Nat × ConnectedRegistry}
      {registries : List (Nat × ConnectedRegistry)}
      {own : List RegistryExchange} {instances : List ServiceInstance}
      (hsome : instances ≠ [])
      (hexact : ∀ inst, inst ∈ instances ↔
        entry.2.Reports serviceId own inst) :
      PriorityOutcome serviceId (entry :: registries) own (.ok instances)

/-- The instances are those reported, each endpoint once and from the first
registry that reports it. -/
structure MergedFrom (serviceId : String)
    (registries : List (Nat × ConnectedRegistry))
    (events : List RegistryEvent) (instances : List ServiceInstance) :
    Prop where
  distinct : (instances.map instanceKey).Nodup
  reported : ∀ inst ∈ instances, ∃ k : Fin registries.length,
    (registries.get k).2.Reports serviceId (exchangesOf k events) inst ∧
    ∀ j : Fin registries.length, j < k → ∀ other,
      (registries.get j).2.Reports serviceId (exchangesOf j events) other →
      instanceKey other ≠ instanceKey inst
  complete : ∀ (k : Fin registries.length) (inst : ServiceInstance),
    (registries.get k).2.Reports serviceId (exchangesOf k events) inst →
    ∃ kept ∈ instances, instanceKey kept = instanceKey inst

section Resolution

variable {serviceId : String} {registries : List (Nat × ConnectedRegistry)}
  {events : List RegistryEvent} {log : List RegistryExchange}
  {result : RegistryAnswer}

theorem priorityOutcome_of_returns
    (h : (LiveResolver.resolvePriority serviceId
      (registries.map fun entry => (entry.1, entry.2.live))).Returns log
        result) :
    PriorityOutcome serviceId registries log result := by
  induction registries generalizing log with
  | nil =>
      obtain ⟨rfl, rfl⟩ := Program.returns_done.mp h
      exact .exhausted
  | cons entry registries ih =>
      obtain ⟨own, answer, rest, rfl, hasked, hrest⟩ :=
        Program.returns_bind.mp h
      have hreports := ConnectedRegistry.answers_reported hasked
      have hpassed (hnone : answeredInstances answer = []) (inst) :
          ¬ entry.2.Reports serviceId own inst := by
        rw [← hreports inst, hnone]
        exact List.not_mem_nil
      cases answer with
      | error e => exact .passed (hpassed rfl) (ih hrest)
      | ok instances =>
          cases instances with
          | nil => exact .passed (hpassed rfl) (ih hrest)
          | cons inst instances =>
              obtain ⟨rfl, rfl⟩ := Program.returns_done.mp hrest
              rw [List.append_nil]
              exact .found (List.cons_ne_nil _ _) hreports

/-- What a join of lookups has answered, registry by registry. -/
theorem joined_reported {results : List RegistryAnswer}
    (h : Joins (LiveResolver.lookups serviceId
      (registries.map fun entry => (entry.1, entry.2.live))) events results) :
    ∃ hlength : results.length = registries.length,
      ∀ (k : Fin registries.length) (inst : ServiceInstance),
        inst ∈ answeredInstances (results.get (k.cast hlength.symm)) ↔
          (registries.get k).2.Reports serviceId (exchangesOf k events)
            inst := by
  have hlength : results.length = registries.length := by
    simpa [LiveResolver.lookups] using h.length
  refine ⟨hlength, fun k inst => ?_⟩
  have hreturns := h.returns k.val (by simp [LiveResolver.lookups])
    (hlength.symm ▸ k.isLt)
  simp only [LiveResolver.lookups, List.get_eq_getElem, List.getElem_map]
    at hreturns
  exact ConnectedRegistry.answers_reported hreturns inst

theorem mergeAnswers_eq {events : List RegistryEvent}
    {live : List (Nat × LiveRegistry)} {results : List RegistryAnswer}
    (h : Joins (LiveResolver.lookups serviceId live) events results) :
    LiveResolver.mergeAnswers serviceId results =
      if keepFirst instanceKey (results.flatMap answeredInstances) = []
      then .error (.allFailed serviceId)
      else .ok (keepFirst instanceKey
        (results.flatMap answeredInstances)) := by
  have hlength : results.length = live.length :=
    h.length.trans (List.length_map _)
  rw [← LiveResolver.resolveMerge_withAnswers h,
    MultiRegistryResolver.resolveMerge_eq,
    LiveResolver.map_answers_withAnswers hlength serviceId]

theorem mergedFrom_joined {results : List RegistryAnswer}
    (hlength : results.length = registries.length)
    (hreported : ∀ (k : Fin registries.length) (inst : ServiceInstance),
      inst ∈ answeredInstances (results.get (k.cast hlength.symm)) ↔
        (registries.get k).2.Reports serviceId (exchangesOf k events) inst) :
    MergedFrom serviceId registries events
      (keepFirst instanceKey (results.flatMap answeredInstances)) where
  distinct := nodup_map_keepFirst _ _
  reported := by
    intro inst hmem
    rw [mem_keepFirst, List.flatMap_def, List.find?_flatten_eq_some_iff]
      at hmem
    obtain ⟨-, front, ys, zs, back, hsplit, hfront, -⟩ := hmem
    have hfrontLength : front.length < registries.length := by
      have := congrArg List.length hsplit
      simp at this
      omega
    have hget (j : Fin registries.length) :
        (front ++ (ys ++ inst :: zs) :: back)[j.val]? =
          some (answeredInstances (results.get (j.cast hlength.symm))) := by
      rw [← hsplit]
      simp [hlength]
    refine ⟨⟨front.length, hfrontLength⟩, ?_, fun j hj other hother hkey => ?_⟩
    · have hat := hget ⟨front.length, hfrontLength⟩
      rw [List.getElem?_append_right le_rfl, Nat.sub_self] at hat
      rw [← hreported, ← Option.some.inj hat]
      exact List.mem_append_right _ List.mem_cons_self
    · have hat := hget j
      rw [List.getElem?_append_left hj] at hat
      have hnone := hfront _ (List.mem_of_getElem? hat) other
        ((hreported j other).mpr hother)
      simp [hkey] at hnone
  complete := by
    intro k inst hreports
    have hmem : inst ∈ results.flatMap answeredInstances :=
      List.mem_flatMap.mpr
        ⟨_, List.get_mem _ _, (hreported k inst).mpr hreports⟩
    cases hfind : (results.flatMap answeredInstances).find? fun other =>
        instanceKey other = instanceKey inst with
    | none =>
        have hnone := List.find?_eq_none.mp hfind inst hmem
        simp at hnone
    | some kept =>
        have hkey : instanceKey kept = instanceKey inst := by
          simpa using List.find?_some hfind
        exact ⟨kept, mem_keepFirst.mpr (hkey ▸ hfind), hkey⟩

end Resolution

def ordersRegistries : List (Nat × ConnectedRegistry) :=
  [(2, .mock LiveResolver.ordersMock), (1, .eureka LiveResolver.emptyEureka .ascii)]

end ServiceRouter
