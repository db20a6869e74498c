import Mathlib.Data.List.AList

/-!
# Hash maps with an unspecified iteration order

A hash map is an association list without repeated keys; the order of its
entries is the order one run of the program happens to iterate it in.  Maps
that arrive as data may have any order.  For maps a function builds itself the
order is chosen by an `IterOrder`, so that results hold for every order.
-/

namespace ServiceRouter.Foundation

abbrev HashMap (κ ν : Type) := AList fun _ : κ => ν

/-- The orders in which freshly built maps and sets are iterated.  Each of them
has a place, so that two with the same elements need not be iterated alike. -/
structure IterOrder where
  orderAt : {α : Type} → List String → List α → List α
  permAt : ∀ {α : Type} (place : List String) (items : List α),
    (orderAt place items).Perm items

namespace IterOrder

def order {α : Type} (iter : IterOrder) (items : List α) : List α :=
  iter.orderAt [] items

/-- The orders at the places under a name. -/
def within (iter : IterOrder) (name : String) : IterOrder where
  orderAt place items := iter.orderAt (name :: place) items
  permAt place items := iter.permAt (name :: place) items

theorem perm {α : Type} (iter : IterOrder) (items : List α) :
    (iter.order items).Perm items :=
  iter.permAt [] items

def insertion : IterOrder where
  orderAt _ items := items
  permAt _ _ := List.Perm.refl _

@[simp] theorem mem_order {α : Type} (iter : IterOrder) {items : List α}
    {a : α} : a ∈ iter.order items ↔ a ∈ items :=
  (iter.perm items).mem_iff

end IterOrder

namespace HashMap

variable {κ ν α : Type} [DecidableEq κ]

def SameBindings (left right : HashMap κ ν) : Prop :=
  left.entries.Perm right.entries

instance [DecidableEq ν] (left right : HashMap κ ν) :
    Decidable (SameBindings left right) :=
  inferInstanceAs (Decidable (left.entries.Perm right.entries))

/-- Insert the pairs one after the other; a later pair replaces an earlier. -/
def collect (key : α → κ) (value : α → ν) (items : List α) : HashMap κ ν :=
  items.foldl (fun map item => map.insert (key item) (value item)) ∅

theorem lookup_foldl_insert (key : α → κ) (value : α → ν)
    (items : List α) (map : HashMap κ ν) (k : κ) :
    (items.foldl (fun map item => map.insert (key item) (value item))
        map).lookup k =
      match items.reverse.find? fun item => key item = k with
      | some item => some (value item)
      | none => map.lookup k := by
  induction items generalizing map with
  | nil => rfl
  | cons item items ih =>
      rw [List.foldl_cons, ih, List.reverse_cons, List.find?_append]
      cases hlast : items.reverse.find? fun item => key item = k with
      | some last => simp
      | none =>
          by_cases hk : key item = k
          · subst hk
            simp
          · simp [hk, AList.lookup_insert_ne (Ne.symm hk)]

theorem lookup_collect (key : α → κ) (value : α → ν) (items : List α) (k : κ) :
    (collect key value items).lookup k =
      (items.reverse.find? fun item => key item = k).map value := by
  rw [collect, lookup_foldl_insert]
  cases items.reverse.find? fun item => key item = k <;> simp

theorem lookup_collect_of_mem {key : α → κ} {value : α → ν} {items : List α}
    (hnodup : (items.map key).Nodup) {item : α} (hitem : item ∈ items) :
    (collect key value items).lookup (key item) = some (value item) := by
  rw [lookup_collect]
  cases hfind : items.reverse.find? fun other => key other = key item with
  | none => simp at hfind; exact absurd rfl (hfind item hitem)
  | some other =>
      have hkey : key other = key item := by
        simpa using List.find?_some hfind
      have hother : other ∈ items := by
        simpa using List.mem_of_find?_eq_some hfind
      rw [List.inj_on_of_nodup_map hnodup hother hitem hkey, Option.map_some]

end HashMap

end ServiceRouter.Foundation
