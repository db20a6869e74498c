import Mathlib.Data.List.Perm.Basic
import ServiceRouter.Config.DiffPatch

/-!
# Reports read backwards

Comparing the two sides the other way round gives the same changes with their
sides exchanged, in whatever orders the two comparisons iterate.  Changes with
their sides exchanged undo what the changes do.
-/

namespace ServiceRouter

open Foundation Value

/-! ## Exchanged sides -/

def ChangeKind.mirror : ChangeKind → ChangeKind
  | .added => .removed
  | .removed => .added
  | .modified => .modified

def ConfigDiffChange.mirror (change : ConfigDiffChange) : ConfigDiffChange where
  path := change.path
  kind := change.kind.mirror
  left := change.right
  right := change.left

def KeyedChange.mirror (change : KeyedChange) : KeyedChange where
  keys := change.keys
  kind := change.kind.mirror
  left := change.right
  right := change.left

/-! ## Sections -/

theorem slotChanges_mirror {iter iter' : IterOrder} {left right : Option Value}
    (h : ∀ va vb, left = some va → right = some vb →
      (diffByKeys iter' vb va).Perm
        ((diffByKeys iter va vb).map KeyedChange.mirror)) :
    (slotChanges iter' right left).Perm
      ((slotChanges iter left right).map KeyedChange.mirror) := by
  cases left with
  | none => cases right <;> exact .refl _
  | some va =>
      cases right with
      | none => exact .refl _
      | some vb => exact h va vb rfl rfl

theorem visitedKeys_mirror (iter iter' : IterOrder)
    (ma mb : List (String × Value)) :
    (visitedKeys iter' mb ma).Perm (visitedKeys iter ma mb) := by
  have hkeys : (mb.map Prod.fst ++ ma.map Prod.fst).dedup.Perm
      (ma.map Prod.fst ++ mb.map Prod.fst).dedup :=
    List.perm_append_comm.dedup
  exact (iter'.perm _).trans (hkeys.trans (iter.perm _).symm)

theorem diffByKeys_mirror (iter iter' : IterOrder) (a b : Value) :
    (diffByKeys iter' b a).Perm
      ((diffByKeys iter a b).map KeyedChange.mirror) := by
  induction iter, a, b using diffByKeys.induct generalizing iter' with
  | case1 iter a => simp
  | case2 iter ma mb hne ih =>
      rw [diffByKeys_object, diffByKeys_object, List.map_flatMap]
      refine (visitedKeys_mirror iter iter' ma mb).flatMap fun k _ => ?_
      have hslot : (slotChanges (iter'.within k) (mb.lookup k)
            (ma.lookup k)).Perm
          ((slotChanges (iter.within k) (ma.lookup k) (mb.lookup k)).map
            KeyedChange.mirror) :=
        slotChanges_mirror fun va vb hleft _ => ih k va vb hleft _
      have hunder := hslot.map (KeyedChange.under k)
      rw [List.map_map] at hunder ⊢
      exact hunder
  | case3 iter a b hleaf hne =>
      rw [diffByKeys_leaf iter', diffByKeys_leaf iter, if_neg (Ne.symm hne),
        if_neg hne]
      · rfl
      · rintro ma mb rfl rfl
        exact hleaf _ _ rfl rfl
      · rintro ma mb rfl rfl
        exact hleaf _ _ rfl rfl

theorem diffJsonLeaf_mirror (iter iter' : IterOrder) (path : String)
    (a b : Value) :
    (diffJsonLeaf iter' path b a).Perm
      ((diffJsonLeaf iter path a b).map ConfigDiffChange.mirror) := by
  rw [diffJsonLeaf_eq_render, diffJsonLeaf_eq_render, List.map_map]
  have hrender := (diffByKeys_mirror iter iter' a b).map
    (KeyedChange.render path)
  rwa [List.map_map] at hrender

/-! ## Routes -/

theorem keyDifference_perm (iter iter' : IterOrder) (left right : List String) :
    (keyDifference iter' left right).Perm (keyDifference iter left right) :=
  ((iter'.perm left).trans (iter.perm left).symm).filter _

theorem keyIntersection_mirror (iter iter' : IterOrder)
    {left right : List String} (hleft : left.Nodup) (hright : right.Nodup) :
    (keyIntersection iter' right left).Perm
      (keyIntersection iter left right) := by
  have hnodup (iter : IterOrder) {left right : List String}
      (hleft : left.Nodup) (hright : right.Nodup) :
      (keyIntersection iter left right).Nodup := by
    unfold keyIntersection
    split
    · exact (((iter.within "ids_l").perm left).nodup_iff.mpr hleft).filter _
    · exact (((iter.within "ids_r").perm right).nodup_iff.mpr hright).filter _
  rw [List.perm_ext_iff_of_nodup (hnodup iter' hright hleft)
    (hnodup iter hleft hright)]
  intro id
  rw [mem_keyIntersection, mem_keyIntersection, and_comm]

theorem diffRoutesById_mirror (iter iter' : IterOrder)
    (left right : List RoutingRule) :
    (diffRoutesById iter' right left).Perm
      ((diffRoutesById iter left right).map ConfigDiffChange.mirror) := by
  unfold diffRoutesById
  dsimp only
  rw [List.map_append, List.map_append, List.map_map, List.map_map,
    List.map_filterMap]
  refine List.Perm.append ?_ ?_
  · -- What one side removes the other adds.
    refine List.Perm.trans ?_ List.perm_append_comm
    exact ((keyDifference_perm _ _ _ _).map _).append
      ((keyDifference_perm _ _ _ _).map _)
  · have hkeys := keyIntersection_mirror iter iter' (routesById left).keys_nodup
      (routesById right).keys_nodup
    refine (hkeys.filterMap _).trans (List.Perm.of_eq ?_)
    refine List.filterMap_congr fun id _ => ?_
    split_ifs with hback hforth hforth
    · rfl
    · exact absurd (Ne.symm hback) hforth
    · exact absurd (Ne.symm hforth) hback
    · rfl

/-! ## Undoing -/

/-- Edits that follow the keys of the changes lead from one object to another
if they do so for what each key holds. -/
theorem writeAll_slots (iter : IterOrder) {ma mb : List (String × Value)}
    {edit : KeyedChange → Edit}
    (hedit : ∀ k change, edit (change.under k) = (edit change).under k)
    {before after : List (String × Value)} (hbefore : SortedFields before)
    (hafter : SortedFields after)
    (hkept : ∀ k ∉ visitedKeys iter ma mb, before.lookup k = after.lookup k)
    (hslots : ∀ k, writeAll
      ((slotChanges (iter.within k) (ma.lookup k) (mb.lookup k)).map edit)
        (before.lookup k) = after.lookup k) :
    writeAll (((visitedKeys iter ma mb).flatMap fun k =>
        (slotChanges (iter.within k) (ma.lookup k) (mb.lookup k)).map
          (KeyedChange.under k)).map edit) (some (.object before)) =
      some (.object after) := by
  have hedits : ((visitedKeys iter ma mb).flatMap fun k =>
        (slotChanges (iter.within k) (ma.lookup k) (mb.lookup k)).map
          (KeyedChange.under k)).map edit =
      (visitedKeys iter ma mb).flatMap fun k =>
        ((slotChanges (iter.within k) (ma.lookup k) (mb.lookup k)).map
          edit).map (Edit.under k) := by
    rw [List.map_flatMap]
    refine List.flatMap_congr fun k _ => ?_
    rw [List.map_map, List.map_map]
    exact List.map_congr_left fun change _ => hedit k change
  obtain ⟨fields, hfields, hwrite, hlookup⟩ :=
    writeAll_groups (nodup_visitedKeys iter ma mb)
      (fun k => (slotChanges (iter.within k) (ma.lookup k)
        (mb.lookup k)).map edit) hbefore
  have hfinal : fields = after := by
    refine hfields.ext hafter fun k => ?_
    rw [hlookup]
    split
    · exact hslots k
    · exact hkept k ‹_›
  rw [hedits, hwrite, hfinal]

/-- Changes with their sides exchanged lead from the right value back to the
left one. -/
theorem patch_mirror_diffByKeys (iter : IterOrder) {a b : Value}
    (ha : a.WellFormed) (hb : b.WellFormed) :
    patch ((diffByKeys iter a b).map KeyedChange.mirror) (some b) =
      some a := by
  refine diffByKeys_induction iter
    (motive := fun left right changes =>
      patch (changes.map KeyedChange.mirror) right = left)
    ?_ ?_ ?_ ?_ ?_ ha hb
  · exact fun _ => rfl
  · exact fun _ => rfl
  · exact fun _ => rfl
  · exact fun _ _ _ => rfl
  · intro iter ma mb hsorted hsorted' hslots
    simp only [patch, List.map_map] at hslots ⊢
    refine writeAll_slots iter (fun k change => rfl) hsorted' hsorted ?_ hslots
    intro k hk
    obtain ⟨hleft, hright⟩ := lookup_of_not_mem_visitedKeys hk
    rw [hleft, hright]

/-! ## Whole reports -/

/--
Comparing two configurations the other way round reports the same changes with
their sides exchanged, whatever orders the two comparisons iterate in.  The
changes of a section, their sides exchanged, undo it: they lead from its right
value back to the left one.
-/
theorem diff_mirror (iter iter' : IterOrder) (left right : AppConfig)
    (leftPath rightPath : String) :
    ((diffAppConfigs iter' right left rightPath leftPath).identical =
        (diffAppConfigs iter left right leftPath rightPath).identical ∧
      (diffAppConfigs iter' right left rightPath leftPath).changes.Perm
        ((diffAppConfigs iter left right leftPath rightPath).changes.map
          ConfigDiffChange.mirror)) ∧
    ∀ a b : JsonValue,
      patch ((diffByKeys iter a.value b.value).map KeyedChange.mirror)
        (some b.value) = some a.value := by
  have hperm : (diffAppConfigs iter' right left rightPath leftPath).changes.Perm
      ((diffAppConfigs iter left right leftPath rightPath).changes.map
        ConfigDiffChange.mirror) := by
    unfold diffAppConfigs
    simp only [List.map_append]
    refine (((diffJsonLeaf_mirror _ _ _ _ _).append ?_).append
      (diffJsonLeaf_mirror _ _ _ _ _)).append
        (diffRoutesById_mirror iter iter' _ _)
    by_cases hlevel : left.logLevel = right.logLevel
    · simp [hlevel]
    · rw [if_pos hlevel, if_pos (Ne.symm hlevel)]
      exact .refl _
  refine ⟨⟨?_, hperm⟩, fun a b =>
    patch_mirror_diffByKeys iter a.wellFormed b.wellFormed⟩
  calc (diffAppConfigs iter' right left rightPath leftPath).identical
    _ = ((diffAppConfigs iter left right leftPath rightPath).changes.map
        ConfigDiffChange.mirror).isEmpty := hperm.isEmpty_eq
    _ = (diffAppConfigs iter left right leftPath rightPath).identical :=
      List.isEmpty_map

end ServiceRouter
