import ServiceRouter.Config.DiffMirror

/-!
# Clean reports

A report is clean exactly if both sides are the same JSON, where routes are
compared by id and the last route of an id counts.  So configurations that are
clean against each other form classes.
-/

namespace ServiceRouter

open Foundation Value

/-! ## Sorted objects outside arrays -/

namespace Foundation.Value

/-- The objects outside arrays have sorted keys. -/
inductive OuterSorted : Value → Prop where
  | leaf {v : Value} (h : ∀ fields, v ≠ .object fields) : OuterSorted v
  | object {fields : List (String × Value)} (hsorted : SortedFields fields)
      (hfields : ∀ field ∈ fields, OuterSorted field.2) :
      OuterSorted (.object fields)

theorem OuterSorted.mkObject {fields : List (String × Value)}
    (h : ∀ field ∈ fields, OuterSorted field.2) :
    OuterSorted (mkObject fields) := by
  have hbuilt : ∀ object : List (String × Value), SortedFields object →
      (∀ field ∈ object, OuterSorted field.2) →
      OuterSorted (.object (fields.foldl (fun object field =>
        insertField field.1 field.2 object) object)) := by
    induction fields with
    | nil => exact fun object => .object
    | cons field fields ih =>
        rw [List.forall_mem_cons] at h
        intro object hsorted hobject
        exact ih h.2 _ hsorted.insertField
          (forall_mem_insertField h.1 hobject)
  exact hbuilt [] List.Pairwise.nil (by simp)

theorem outerSorted_string (s : String) : OuterSorted (.string s) :=
  .leaf fun _ => Value.noConfusion

end Foundation.Value

theorem eq_of_slotChanges_eq_nil {iter : IterOrder}
    {left right : Option Value} (h : slotChanges iter left right = [])
    (hboth : ∀ va vb, left = some va → right = some vb →
      diffByKeys iter va vb = [] → va = vb) : left = right := by
  cases left with
  | none =>
      cases right with
      | none => rfl
      | some vb => cases h
  | some va =>
      cases right with
      | none => cases h
      | some vb => exact congrArg some (hboth va vb rfl rfl h)

theorem eq_of_diffByKeys_eq_nil {iter : IterOrder} {a b : Value}
    (ha : a.OuterSorted) (hb : b.OuterSorted)
    (h : diffByKeys iter a b = []) : a = b := by
  have leaf {iter : IterOrder} {a b : Value} (h : diffByKeys iter a b = [])
      (hleaf : ∀ ma mb, a = .object ma → b ≠ .object mb) : a = b := by
    rw [diffByKeys_leaf iter hleaf] at h
    by_contra hne
    rw [if_neg hne] at h
    cases h
  induction ha generalizing iter b with
  | leaf hnot => exact leaf h fun ma _ hma _ => hnot ma hma
  | @object ma hsorted hfields ih =>
      cases hb with
      | leaf hnot => exact leaf h fun _ mb _ => hnot mb
      | @object mb hsorted' hfields' =>
          rw [diffByKeys_object, List.flatMap_eq_nil_iff] at h
          congr 1
          refine hsorted.ext hsorted' fun k => ?_
          by_cases hk : k ∈ visitedKeys iter ma mb
          · refine eq_of_slotChanges_eq_nil (List.map_eq_nil_iff.mp (h k hk)) ?_
            intro va vb hleft hright
            exact ih _ (mem_of_lookup hleft)
              (hfields' _ (mem_of_lookup hright))
          · obtain ⟨hleft, hright⟩ := lookup_of_not_mem_visitedKeys hk
            rw [hleft, hright]

theorem diffJsonLeaf_eq_nil_iff {iter : IterOrder} {path : String}
    {a b : Value} (ha : a.OuterSorted) (hb : b.OuterSorted) :
    diffJsonLeaf iter path a b = [] ↔ a = b := by
  constructor
  · intro hnil
    rw [diffJsonLeaf_eq_render, List.map_eq_nil_iff] at hnil
    exact eq_of_diffByKeys_eq_nil ha hb hnil
  · rintro rfl
    exact diffJsonLeaf_self iter path a

/-! ## The sections of a configuration -/

theorem outerSorted_ofNat (n : Nat) : (Value.ofNat n).OuterSorted :=
  .leaf fun _ => Value.noConfusion

theorem outerSorted_array (items : List Value) :
    (Value.array items).OuterSorted :=
  .leaf fun _ => Value.noConfusion

theorem HealthCheckConfig.toValue_outerSorted (check : HealthCheckConfig) :
    check.toValue.OuterSorted := by
  apply OuterSorted.mkObject
  simp [outerSorted_ofNat, outerSorted_string]

theorem InstanceSelection.toValue_outerSorted (mode : InstanceSelection) :
    mode.toValue.OuterSorted := by
  cases mode <;> exact outerSorted_string _

theorem RegistryQueryMode.toValue_outerSorted (mode : RegistryQueryMode) :
    mode.toValue.OuterSorted := by
  cases mode <;> exact outerSorted_string _

theorem ServerConfig.toValue_outerSorted (server : ServerConfig) :
    server.toValue.OuterSorted := by
  have hcheck :
      (Value.ofOption HealthCheckConfig.toValue
        server.healthCheck).OuterSorted := by
    cases server.healthCheck with
    | none => exact .leaf fun _ => Value.noConfusion
    | some check => exact check.toValue_outerSorted
  apply OuterSorted.mkObject
  simp [outerSorted_ofNat, outerSorted_string, outerSorted_array, hcheck,
    InstanceSelection.toValue_outerSorted]

theorem RegistriesConfig.toValue_outerSorted (registries : RegistriesConfig) :
    registries.toValue.OuterSorted := by
  apply OuterSorted.mkObject
  simp [outerSorted_array, RegistryQueryMode.toValue_outerSorted]

/-! ## Classes -/

/-- Both are the same JSON; of routes the last one of an id counts. -/
structure AppConfig.SameJson (left right : AppConfig) : Prop where
  server : left.server.toValue = right.server.toValue
  logLevel : left.logLevel = right.logLevel
  registries : left.registries.toValue = right.registries.toValue
  routes : ∀ id, ((routesById left.routes).lookup id).map RoutingRule.toValue =
    ((routesById right.routes).lookup id).map RoutingRule.toValue

namespace AppConfig.SameJson

variable {left middle right : AppConfig}

theorem refl (config : AppConfig) : config.SameJson config :=
  ⟨rfl, rfl, rfl, fun _ => rfl⟩

theorem symm (h : left.SameJson right) : right.SameJson left :=
  ⟨h.server.symm, h.logLevel.symm, h.registries.symm,
    fun id => (h.routes id).symm⟩

theorem trans (h : left.SameJson middle) (h' : middle.SameJson right) :
    left.SameJson right :=
  ⟨h.server.trans h'.server, h.logLevel.trans h'.logLevel,
    h.registries.trans h'.registries,
    fun id => (h.routes id).trans (h'.routes id)⟩

end AppConfig.SameJson

theorem identical_iff_sameJson {iter : IterOrder} {left right : AppConfig}
    {leftPath rightPath : String} :
    (diffAppConfigs iter left right leftPath rightPath).identical = true ↔
      left.SameJson right := by
  rw [diffAppConfigs_identical, diffRoutesById_eq_nil_iff,
    diffJsonLeaf_eq_nil_iff left.server.toValue_outerSorted
      right.server.toValue_outerSorted,
    diffJsonLeaf_eq_nil_iff left.registries.toValue_outerSorted
      right.registries.toValue_outerSorted]
  exact ⟨fun ⟨hserver, hlevel, hregistries, hroutes⟩ =>
      ⟨hserver, hlevel, hregistries, hroutes⟩,
    fun h => ⟨h.server, h.logLevel, h.registries, h.routes⟩⟩

end ServiceRouter
