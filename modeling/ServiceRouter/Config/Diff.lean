import ServiceRouter.Config.Serialize

/-!
# Comparing two configurations

`diffAppConfigs` compares the server and registry sections as JSON and the
routes by id.  `iter` chooses the order in which each set of keys is iterated.
-/

namespace ServiceRouter

open Foundation

inductive ChangeKind where
  | added
  | removed
  | modified
  deriving DecidableEq, Repr

structure ConfigDiffChange where
  path : String
  kind : ChangeKind
  left : Option Value
  right : Option Value
  deriving DecidableEq

structure ConfigDiffReport where
  diagnosticVersion : String := "1.0"
  leftPath : String
  rightPath : String
  identical : Bool
  changes : List ConfigDiffChange

/-! ## JSON sections -/

theorem sizeOf_lt_of_lookup {k : String} {v : Value}
    {fields : List (String × Value)} (h : fields.lookup k = some v) :
    sizeOf v < sizeOf fields := by
  induction fields with
  | nil => cases h
  | cons field fields ih =>
      obtain ⟨l, w⟩ := field
      rw [List.lookup_cons] at h
      split at h
      · cases h
        simp only [List.cons.sizeOf_spec, Prod.mk.sizeOf_spec]
        omega
      · have := ih h
        simp only [List.cons.sizeOf_spec]
        omega

def diffJsonLeaf (iter : IterOrder) (path : String) (a b : Value) :
    List ConfigDiffChange :=
  if a = b then []
  else
    match a, b with
    | .object ma, .object mb =>
        let keys := (ma.map Prod.fst ++ mb.map Prod.fst).dedup
        (iter.order keys).flatMap fun k =>
          let p := if path.isEmpty then k else s!"{path}.{k}"
          match _hleft : ma.lookup k, mb.lookup k with
          | some va, some vb => diffJsonLeaf (iter.within k) p va vb
          | none, some vb => [⟨p, .added, none, some vb⟩]
          | some va, none => [⟨p, .removed, some va, none⟩]
          | none, none => []
    -- Two different arrays and all other pairs are reported as a whole.
    | a, b => [⟨path, .modified, some a, some b⟩]
termination_by sizeOf a
decreasing_by
  have := sizeOf_lt_of_lookup _hleft
  simp only [Value.object.sizeOf_spec]
  omega

@[simp] theorem diffJsonLeaf_self (iter : IterOrder) (path : String)
    (a : Value) : diffJsonLeaf iter path a a = [] := by
  unfold diffJsonLeaf
  exact if_pos rfl

/-! ## Routes -/

def routesById (routes : List RoutingRule) : HashMap String RoutingRule :=
  HashMap.collect RoutingRule.id id routes

def routeChange (kind : ChangeKind) (id : String)
    (left right : Option RoutingRule) : ConfigDiffChange where
  path := s!"routes[{id}]"
  kind := kind
  left := left.map RoutingRule.toValue
  right := right.map RoutingRule.toValue

def keyDifference (iter : IterOrder) (left right : List String) :
    List String :=
  (iter.order left).filter fun id => !right.contains id

/-- The smaller set is iterated. -/
def keyIntersection (iter : IterOrder) (left right : List String) :
    List String :=
  if left.length ≤ right.length
  then ((iter.within "ids_l").order left).filter fun id => right.contains id
  else ((iter.within "ids_r").order right).filter fun id => left.contains id

def diffRoutesById (iter : IterOrder) (left right : List RoutingRule) :
    List ConfigDiffChange :=
  let lm := routesById left
  let rm := routesById right
  let idsL := lm.keys
  let idsR := rm.keys
  let removed := (keyDifference (iter.within "ids_l") idsL idsR).map fun id =>
    routeChange .removed id (lm.lookup id) none
  let added := (keyDifference (iter.within "ids_r") idsR idsL).map fun id =>
    routeChange .added id none (rm.lookup id)
  let modified := (keyIntersection iter idsL idsR).filterMap fun id =>
    let change := routeChange .modified id (lm.lookup id) (rm.lookup id)
    if change.left ≠ change.right then some change else none
  removed ++ added ++ modified

def diffAppConfigs (iter : IterOrder) (left right : AppConfig)
    (leftPath rightPath : String) : ConfigDiffReport :=
  let logLevel :=
    if left.logLevel ≠ right.logLevel then
      [⟨"log_level", .modified, some (.string left.logLevel),
        some (.string right.logLevel)⟩]
    else []
  let changes :=
    diffJsonLeaf (iter.within "server") "server" left.server.toValue
        right.server.toValue ++
      logLevel ++
      diffJsonLeaf (iter.within "registries") "registries"
        left.registries.toValue right.registries.toValue ++
      diffRoutesById iter left.routes right.routes
  { leftPath := leftPath
    rightPath := rightPath
    identical := changes.isEmpty
    changes := changes }

/-! ## When no route change is reported -/

@[simp] theorem mem_keyDifference {iter : IterOrder}
    {left right : List String} {id : String} :
    id ∈ keyDifference iter left right ↔ id ∈ left ∧ id ∉ right := by
  simp [keyDifference]

@[simp] theorem mem_keyIntersection {iter : IterOrder}
    {left right : List String} {id : String} :
    id ∈ keyIntersection iter left right ↔ id ∈ left ∧ id ∈ right := by
  unfold keyIntersection
  split <;> simp [and_comm]

/-- No route change is reported exactly if both maps have the same ids and the
routes under each id have the same JSON. -/
theorem diffRoutesById_eq_nil_iff {iter : IterOrder}
    {left right : List RoutingRule} :
    diffRoutesById iter left right = [] ↔
      ∀ id, ((routesById left).lookup id).map RoutingRule.toValue =
        ((routesById right).lookup id).map RoutingRule.toValue := by
  simp only [diffRoutesById, routeChange, List.append_eq_nil_iff,
    List.map_eq_nil_iff, List.filterMap_eq_nil_iff]
  simp only [List.eq_nil_iff_forall_not_mem, mem_keyDifference,
    mem_keyIntersection]
  constructor
  · rintro ⟨⟨hremoved, hadded⟩, hmodified⟩ id
    by_cases hl : id ∈ routesById left
    · by_cases hr : id ∈ routesById right
      · by_contra hne
        exact absurd (hmodified id ⟨hl, hr⟩) (by simp [hne])
      · exact absurd ⟨hl, hr⟩ (hremoved id)
    · by_cases hr : id ∈ routesById right
      · exact absurd ⟨hr, hl⟩ (hadded id)
      · rw [AList.lookup_eq_none.mpr hl, AList.lookup_eq_none.mpr hr]
  · intro hsame
    have hmem (id : String) :
        id ∈ routesById left ↔ id ∈ routesById right := by
      rw [← AList.lookup_isSome, ← AList.lookup_isSome,
        ← Option.isSome_map (f := RoutingRule.toValue), hsame,
        Option.isSome_map]
    refine ⟨⟨?_, ?_⟩, ?_⟩
    · rintro id ⟨hl, hr⟩
      exact hr ((hmem id).mp hl)
    · rintro id ⟨hr, hl⟩
      exact hl ((hmem id).mpr hr)
    · rintro id -
      simp [hsame id]

theorem diffAppConfigs_identical {iter : IterOrder} {left right : AppConfig}
    {leftPath rightPath : String} :
    (diffAppConfigs iter left right leftPath rightPath).identical = true ↔
      diffJsonLeaf (iter.within "server") "server" left.server.toValue
        right.server.toValue = [] ∧
      left.logLevel = right.logLevel ∧
      diffJsonLeaf (iter.within "registries") "registries"
        left.registries.toValue right.registries.toValue = [] ∧
      diffRoutesById iter left.routes right.routes = [] := by
  simp [diffAppConfigs]

end ServiceRouter
