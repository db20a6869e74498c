import Mathlib.Data.List.Rotate
import ServiceRouter.Foundation.HashMap
import ServiceRouter.Foundation.MultiMap

/-!
# Insertions in an unspecified order

The last insertion for a key decides what the key has.  When the order is not
specified any of them may be the last, so the outcome is determined exactly
for the keys whose insertions all have one value.
-/

namespace ServiceRouter.Foundation

variable {α κ ν : Type}

/-! ## Orders -/

/-- The order that begins with a later element and wraps around. -/
def IterOrder.rotation (n : Nat) : IterOrder where
  orderAt _ items := items.rotate n
  permAt _ items := List.rotate_perm items n

theorem exists_rotate_eq_concat {a : α} {items : List α} (h : a ∈ items) :
    ∃ n front, items.rotate n = front ++ [a] := by
  obtain ⟨before, after, rfl⟩ := List.append_of_mem h
  refine ⟨(before ++ [a]).length, after ++ before, ?_⟩
  have hsplit : before ++ a :: after = (before ++ [a]) ++ after := by simp
  rw [hsplit, List.rotate_append_length_eq, List.append_assoc]

/-- The same map, iterated from a later entry on. -/
def HashMap.rotated (map : HashMap κ ν) (n : Nat) : HashMap κ ν where
  entries := map.entries.rotate n
  nodupKeys := (List.perm_nodupKeys (List.rotate_perm _ n)).mpr map.nodupKeys

theorem HashMap.sameBindings_rotated (map : HashMap κ ν) (n : Nat) :
    map.SameBindings (map.rotated n) :=
  (List.rotate_perm _ n).symm

namespace MultiMap

variable [DecidableEq κ]

/-! ## What a key has after the insertions -/

theorem getAll_insertAll_concat (map : MultiMap κ ν) (front : List (κ × ν))
    (k : κ) (v : ν) : (map.insertAll (front ++ [(k, v)])).getAll k = [v] := by
  rw [insertAll_append]
  exact getAll_insert_self _ k v

theorem getAll_insertAll_of_unique {map : MultiMap κ ν}
    {pairs : List (κ × ν)} {k : κ} {v : ν} (hmem : (k, v) ∈ pairs)
    (hunique : ∀ w, (k, w) ∈ pairs → w = v) :
    (map.insertAll pairs).getAll k = [v] := by
  have hvalue : v ∈ (⟨pairs⟩ : MultiMap κ ν).getAll k := mem_getAll.mpr hmem
  rw [getAll_insertAll]
  cases hlast : ((⟨pairs⟩ : MultiMap κ ν).getAll k).getLast? with
  | none =>
      rw [List.getLast?_eq_none_iff] at hlast
      rw [hlast] at hvalue
      cases hvalue
  | some last =>
      have hpair := mem_getAll.mp (List.mem_of_getLast? hlast)
      simp only [hunique last hpair]

theorem getAll_insertAll_of_forall_not_mem {map : MultiMap κ ν}
    {pairs : List (κ × ν)} {k : κ} (h : ∀ v, (k, v) ∉ pairs) :
    (map.insertAll pairs).getAll k = map.getAll k := by
  have hnil : (⟨pairs⟩ : MultiMap κ ν).getAll k = [] :=
    List.eq_nil_iff_forall_not_mem.mpr fun v hv => h v (mem_getAll.mp hv)
  rw [getAll_insertAll, hnil]
  rfl

/-- With one value for each key the order does not matter. -/
theorem getAll_insertAll_perm {first second : List (κ × ν)}
    (hperm : first.Perm second)
    (hsingle : ∀ k v w, (k, v) ∈ first → (k, w) ∈ first → v = w)
    (map : MultiMap κ ν) (k : κ) :
    (map.insertAll first).getAll k = (map.insertAll second).getAll k := by
  by_cases hsome : ∃ v, (k, v) ∈ first
  · obtain ⟨v, hv⟩ := hsome
    rw [getAll_insertAll_of_unique hv fun w hw => hsingle k w v hw hv,
      getAll_insertAll_of_unique (hperm.mem_iff.mp hv) fun w hw =>
        hsingle k w v (hperm.mem_iff.mpr hw) hv]
  · have hnone : ∀ v, (k, v) ∉ first := fun v hv => hsome ⟨v, hv⟩
    rw [getAll_insertAll_of_forall_not_mem hnone,
      getAll_insertAll_of_forall_not_mem fun v hv =>
        hnone v (hperm.mem_iff.mpr hv)]

/-- A key that is inserted with a value has it in every order exactly when it
is inserted with no other. -/
theorem forall_order_getAll_insertAll_iff {map : MultiMap κ ν}
    {read : α → Option (κ × ν)} {items : List α} {k : κ} {v : ν}
    (hmem : ∃ a ∈ items, read a = some (k, v)) :
    (∀ iter : IterOrder,
        (map.insertAll ((iter.order items).filterMap read)).getAll k = [v]) ↔
      ∀ a ∈ items, ∀ w, read a = some (k, w) → w = v := by
  constructor
  · intro h a ha w hread
    obtain ⟨n, front, hrotate⟩ := exists_rotate_eq_concat ha
    have horder := h (.rotation n)
    rw [show (IterOrder.rotation n).order items = front ++ [a] from hrotate,
      List.filterMap_append, List.filterMap_cons_some hread,
      List.filterMap_nil, getAll_insertAll_concat] at horder
    exact List.singleton_inj.mp horder
  · intro h iter
    obtain ⟨a, ha, hread⟩ := hmem
    refine getAll_insertAll_of_unique ?_ fun w hw => ?_
    · exact List.mem_filterMap.mpr ⟨a, iter.mem_order.mpr ha, hread⟩
    · obtain ⟨b, hb, hreadb⟩ := List.mem_filterMap.mp hw
      exact h b (iter.mem_order.mp hb) w hreadb

end MultiMap

end ServiceRouter.Foundation
