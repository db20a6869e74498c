import Mathlib.Data.List.Dedup
import ServiceRouter.Config.Diff
import ServiceRouter.Foundation.JsonPath

/-!
# The changes between two JSON values

The paths of the changes are texts; read as key sequences they are positions.
The changes are exactly the positions at which the values part, none inside
another, and they turn the first value into the second.
-/

namespace ServiceRouter

open Foundation Value

/-! ## Changes at positions -/

/-- A change whose path is a sequence of keys. -/
structure KeyedChange where
  keys : List String
  kind : ChangeKind
  left : Option Value
  right : Option Value

namespace KeyedChange

def under (k : String) (change : KeyedChange) : KeyedChange :=
  { change with keys := k :: change.keys }

/-- The text of the path, which begins with the path of the whole. -/
def render (path : String) (change : KeyedChange) : ConfigDiffChange where
  path := change.keys.foldl (fun path k =>
    if path.isEmpty then k else s!"{path}.{k}") path
  kind := change.kind
  left := change.left
  right := change.right

/-- What writing the change does: a removed key is removed, any other position
gets the right value. -/
def edit (change : KeyedChange) : Edit where
  keys := change.keys
  new := if change.kind = .removed then none else change.right

/-- The change is at a position where the values differ, and has what they hold
there. -/
structure At (change : KeyedChange) (left right : Option Value) : Prop where
  left_eq : readSlot change.keys left = change.left
  right_eq : readSlot change.keys right = change.right
  differ : change.left ≠ change.right
  added : change.kind = .added ↔ change.left = none
  removed : change.kind = .removed ↔ change.right = none

end KeyedChange

/-- The changes as the recursion finds them, with the keys of their paths. -/
def diffByKeys (iter : IterOrder) (a b : Value) : List KeyedChange :=
  if a = b then []
  else
    match a, b with
    | .object ma, .object mb =>
        let keys := (ma.map Prod.fst ++ mb.map Prod.fst).dedup
        (iter.order keys).flatMap fun k =>
          match _hleft : ma.lookup k, mb.lookup k with
          | some va, some vb =>
              (diffByKeys (iter.within k) va vb).map (KeyedChange.under k)
          | none, some vb => [⟨[k], .added, none, some vb⟩]
          | some va, none => [⟨[k], .removed, some va, none⟩]
          | none, none => []
    | a, b => [⟨[], .modified, some a, some b⟩]
termination_by sizeOf a
decreasing_by
  have := sizeOf_lt_of_lookup _hleft
  simp only [Value.object.sizeOf_spec]
  omega

/-- The changes of what a key holds on both sides. -/
def slotChanges (iter : IterOrder) :
    Option Value → Option Value → List KeyedChange
  | some va, some vb => diffByKeys iter va vb
  | none, some vb => [⟨[], .added, none, some vb⟩]
  | some va, none => [⟨[], .removed, some va, none⟩]
  | none, none => []

/-- The keys of two objects in the order they are visited. -/
def visitedKeys (iter : IterOrder) (ma mb : List (String × Value)) :
    List String :=
  iter.order (ma.map Prod.fst ++ mb.map Prod.fst).dedup

@[simp] theorem diffByKeys_self (iter : IterOrder) (a : Value) :
    diffByKeys iter a a = [] := by
  unfold diffByKeys
  exact if_pos rfl

@[simp] theorem slotChanges_self (iter : IterOrder) (slot : Option Value) :
    slotChanges iter slot slot = [] := by
  cases slot with
  | none => rfl
  | some v => exact diffByKeys_self iter v

theorem diffByKeys_object (iter : IterOrder) (ma mb : List (String × Value)) :
    diffByKeys iter (.object ma) (.object mb) =
      (visitedKeys iter ma mb).flatMap fun k =>
        (slotChanges (iter.within k) (ma.lookup k) (mb.lookup k)).map
          (KeyedChange.under k) := by
  by_cases heq : ma = mb
  · subst heq
    simp
  · unfold diffByKeys
    rw [if_neg (by simpa using heq)]
    refine List.flatMap_congr fun k _ => ?_
    split
    all_goals
      rename_i hleft hright
      rw [hleft, hright]
      rfl

theorem diffByKeys_leaf (iter : IterOrder) {a b : Value}
    (h : ∀ ma mb, a = .object ma → b ≠ .object mb) :
    diffByKeys iter a b =
      if a = b then [] else [⟨[], .modified, some a, some b⟩] := by
  unfold diffByKeys
  split
  · rfl
  · split
    · exact absurd rfl (h _ _ rfl)
    · rfl

/-- The changes that are reported are these changes with their paths as
texts. -/
theorem diffJsonLeaf_eq_render (iter : IterOrder) (path : String)
    (a b : Value) :
    diffJsonLeaf iter path a b =
      (diffByKeys iter a b).map (KeyedChange.render path) := by
  fun_induction diffJsonLeaf iter path a b with
  | case1 iter path a => simp
  | case2 iter path ma mb hne ih =>
      rw [diffByKeys_object, List.map_flatMap]
      refine List.flatMap_congr fun k _ => ?_
      have hunder (change : KeyedChange) :
          (change.under k).render path = change.render
            (if path.isEmpty then k else s!"{path}.{k}") := rfl
      have hk := ih k
      simp only [List.map_map, Function.comp_def, hunder, dite_eq_ite]
        at hk ⊢
      generalize (if path.isEmpty then k else s!"{path}.{k}") = p at hk ⊢
      split
      · rename_i va vb hleft hright
        rw [hleft, hright]
        exact hk va vb hleft
      all_goals
        rename_i hleft hright
        rw [hleft, hright]
        rfl
  | case3 iter path a b hleaf hne =>
      rw [diffByKeys_leaf iter hleaf, if_neg hne]
      rfl

/-! ## The recursion as an induction rule -/

theorem nodup_visitedKeys (iter : IterOrder) (ma mb : List (String × Value)) :
    (visitedKeys iter ma mb).Nodup :=
  (iter.perm _).nodup_iff.mpr (List.nodup_dedup _)

theorem lookup_of_not_mem_visitedKeys {iter : IterOrder}
    {ma mb : List (String × Value)} {k : String}
    (h : k ∉ visitedKeys iter ma mb) :
    ma.lookup k = none ∧ mb.lookup k = none := by
  simp only [visitedKeys, IterOrder.mem_order, List.mem_dedup,
    List.mem_append, not_or] at h
  have hnone {fields : List (String × Value)}
      (hk : k ∉ fields.map Prod.fst) : fields.lookup k = none := by
    by_contra hlookup
    obtain ⟨v, hv⟩ := Option.ne_none_iff_exists'.mp hlookup
    exact hk (List.mem_map.mpr ⟨(k, v), mem_of_lookup hv, rfl⟩)
  exact ⟨hnone h.1, hnone h.2⟩

/-- What holds of the changes of one slot at each turn of the recursion holds
of the changes of two values. -/
theorem diffByKeys_induction (iter : IterOrder)
    {motive : Option Value → Option Value → List KeyedChange → Prop}
    (same : ∀ slot, motive slot slot [])
    (added : ∀ vb, motive none (some vb) [⟨[], .added, none, some vb⟩])
    (removed : ∀ va, motive (some va) none [⟨[], .removed, some va, none⟩])
    (modified : ∀ va vb, va ≠ vb →
      motive (some va) (some vb) [⟨[], .modified, some va, some vb⟩])
    (objects : ∀ iter ma mb, SortedFields ma → SortedFields mb →
      (∀ k, motive (ma.lookup k) (mb.lookup k)
        (slotChanges (iter.within k) (ma.lookup k) (mb.lookup k))) →
      motive (some (.object ma)) (some (.object mb))
        ((visitedKeys iter ma mb).flatMap fun k =>
          (slotChanges (iter.within k) (ma.lookup k) (mb.lookup k)).map
            (KeyedChange.under k)))
    {a b : Value} (ha : a.WellFormed) (hb : b.WellFormed) :
    motive (some a) (some b) (diffByKeys iter a b) := by
  have leaf (iter : IterOrder) (a b : Value)
      (h : ∀ ma mb, a = .object ma → b ≠ .object mb) :
      motive (some a) (some b) (diffByKeys iter a b) := by
    rw [diffByKeys_leaf iter h]
    split
    · subst b
      exact same _
    · exact modified a b ‹_›
  induction ha generalizing b iter with
  | object hsorted hfields ih =>
      cases hb with
      | object hsorted' hfields' =>
          rw [diffByKeys_object]
          refine objects iter _ _ hsorted hsorted' fun k => ?_
          cases hleft : List.lookup k _ with
          | none =>
              cases hright : List.lookup k _ with
              | none => exact same none
              | some vb => exact added vb
          | some va =>
              cases hright : List.lookup k _ with
              | none => exact removed va
              | some vb =>
                  exact ih _ (mem_of_lookup hleft) _
                    (hfields' _ (mem_of_lookup hright))
      | _ => exact leaf iter _ _ (by simp)
  | _ => exact leaf iter _ _ (by simp)

/-! ## Positions of the changes -/

/-- No path of the changes begins another. -/
def Apart (first second : KeyedChange) : Prop :=
  ¬ first.keys <+: second.keys ∧ ¬ second.keys <+: first.keys

theorem diffByKeys_apart (iter : IterOrder) {a b : Value}
    (ha : a.WellFormed) (hb : b.WellFormed) :
    (diffByKeys iter a b).Pairwise Apart := by
  refine diffByKeys_induction iter
    (motive := fun _ _ changes => changes.Pairwise Apart) ?_ ?_ ?_ ?_ ?_ ha hb
  · exact fun _ => List.Pairwise.nil
  · exact fun _ => List.pairwise_singleton _ _
  · exact fun _ => List.pairwise_singleton _ _
  · exact fun _ _ _ => List.pairwise_singleton _ _
  · intro iter ma mb _ _ hslots
    rw [List.pairwise_flatMap]
    constructor
    · intro k _
      rw [List.pairwise_map]
      refine (hslots k).imp fun {first second} hapart => ?_
      simpa [Apart, KeyedChange.under] using hapart
    · refine (nodup_visitedKeys iter ma mb).imp fun {k l} hne => ?_
      intro first hfirst second hsecond
      obtain ⟨first, _, rfl⟩ := List.mem_map.mp hfirst
      obtain ⟨second, _, rfl⟩ := List.mem_map.mp hsecond
      simp [Apart, KeyedChange.under, hne, Ne.symm hne]

theorem at_of_mem_diffByKeys (iter : IterOrder) {a b : Value}
    (ha : a.WellFormed) (hb : b.WellFormed) :
    ∀ change ∈ diffByKeys iter a b, change.At (some a) (some b) := by
  refine diffByKeys_induction iter
    (motive := fun left right changes =>
      ∀ change ∈ changes, change.At left right) ?_ ?_ ?_ ?_ ?_ ha hb
  · exact fun _ => by simp
  · intro vb
    rw [List.forall_mem_singleton]
    exact ⟨rfl, rfl, by simp, by simp, by simp⟩
  · intro va
    rw [List.forall_mem_singleton]
    exact ⟨rfl, rfl, by simp, by simp, by simp⟩
  · intro va vb hne
    rw [List.forall_mem_singleton]
    exact ⟨rfl, rfl, by simpa using hne, by simp, by simp⟩
  · intro iter ma mb _ _ hslots change hchange
    obtain ⟨k, _, hmem⟩ := List.mem_flatMap.mp hchange
    obtain ⟨inner, hinner, rfl⟩ := List.mem_map.mp hmem
    have hat := hslots k inner hinner
    exact ⟨hat.left_eq, hat.right_eq, hat.differ, hat.added, hat.removed⟩

/-! ## Patching -/

/-- Write the changes one after the other. -/
def patch (changes : List KeyedChange) (slot : Option Value) : Option Value :=
  writeAll (changes.map KeyedChange.edit) slot

theorem patch_diffByKeys (iter : IterOrder) {a b : Value}
    (ha : a.WellFormed) (hb : b.WellFormed) :
    patch (diffByKeys iter a b) (some a) = some b := by
  refine diffByKeys_induction iter
    (motive := fun left right changes => patch changes left = right)
    ?_ ?_ ?_ ?_ ?_ ha hb
  · exact fun _ => rfl
  · exact fun _ => rfl
  · exact fun _ => rfl
  · exact fun _ _ _ => rfl
  · intro iter ma mb hsorted hsorted' hslots
    have hedits : ((visitedKeys iter ma mb).flatMap fun k =>
          (slotChanges (iter.within k) (ma.lookup k) (mb.lookup k)).map
            (KeyedChange.under k)).map KeyedChange.edit =
        (visitedKeys iter ma mb).flatMap fun k =>
          ((slotChanges (iter.within k) (ma.lookup k) (mb.lookup k)).map
            KeyedChange.edit).map (Edit.under k) := by
      rw [List.map_flatMap]
      refine List.flatMap_congr fun k _ => ?_
      rw [List.map_map, List.map_map]
      rfl
    obtain ⟨fields, hfields, hwrite, hlookup⟩ :=
      writeAll_groups (nodup_visitedKeys iter ma mb)
        (fun k => (slotChanges (iter.within k) (ma.lookup k)
          (mb.lookup k)).map KeyedChange.edit) hsorted
    rw [patch, hedits, hwrite]
    congr 2
    refine hfields.ext hsorted' fun k => ?_
    rw [hlookup]
    split
    · exact hslots k
    · obtain ⟨hleft, hright⟩ := lookup_of_not_mem_visitedKeys ‹_›
      rw [hleft, hright]

theorem diffByKeys_eq_nil_iff (iter : IterOrder) {a b : Value}
    (ha : a.WellFormed) (hb : b.WellFormed) :
    diffByKeys iter a b = [] ↔ a = b := by
  constructor
  · intro hnil
    have hpatch := patch_diffByKeys iter ha hb
    rw [hnil] at hpatch
    exact Option.some.inj hpatch
  · rintro rfl
    exact diffByKeys_self iter a

/-- The changes are none exactly for equal values, no path begins another, each
is at a position where the values differ and has what they hold there, and
together they turn the left value into the right one. -/
theorem diffJsonLeaf_complete_and_faithful (iter : IterOrder) (path : String)
    (a b : JsonValue) :
    diffJsonLeaf iter path a.value b.value =
        (diffByKeys iter a.value b.value).map (KeyedChange.render path) ∧
      (diffJsonLeaf iter path a.value b.value = [] ↔ a.value = b.value) ∧
      (diffByKeys iter a.value b.value).Pairwise Apart ∧
      (∀ change ∈ diffByKeys iter a.value b.value,
        change.At (some a.value) (some b.value)) ∧
      patch (diffByKeys iter a.value b.value) (some a.value) =
        some b.value := by
  have hrender := diffJsonLeaf_eq_render iter path a.value b.value
  refine ⟨hrender, ?_, diffByKeys_apart iter a.wellFormed b.wellFormed,
    at_of_mem_diffByKeys iter a.wellFormed b.wellFormed,
    patch_diffByKeys iter a.wellFormed b.wellFormed⟩
  rw [hrender, List.map_eq_nil_iff]
  exact diffByKeys_eq_nil_iff iter a.wellFormed b.wellFormed

end ServiceRouter
