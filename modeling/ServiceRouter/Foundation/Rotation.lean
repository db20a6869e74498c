import Mathlib.Algebra.GroupWithZero.Nat
import Mathlib.Data.List.Rotate

/-!
# Weighted rotations

Items with weights own consecutive intervals of the residues modulo the sum of
the weights.  Finding the interval of a residue is the same as reading the list
in which every item is repeated as often as its weight says; consecutive
counters read a rotation of that list.
-/

namespace ServiceRouter.Foundation.Rotation

variable {α : Type}

/-- Every item as often as its weight says. -/
def expand (weight : α → Nat) (items : List α) : List α :=
  items.flatMap fun a => List.replicate (weight a) a

/-- The place of the interval that contains `c`. -/
def intervalOf (c : Nat) : List Nat → Option Nat
  | [] => none
  | w :: weights =>
      if c < w then some 0 else (intervalOf (c - w) weights).map (· + 1)

@[simp] theorem expand_cons (weight : α → Nat) (a : α) (items : List α) :
    expand weight (a :: items) =
      List.replicate (weight a) a ++ expand weight items :=
  List.flatMap_cons

theorem length_expand (weight : α → Nat) (items : List α) :
    (expand weight items).length = (items.map weight).sum := by
  induction items with
  | nil => rfl
  | cons a items ih =>
      rw [expand_cons, List.length_append, List.length_replicate, ih,
        List.map_cons, List.sum_cons]

theorem getElem?_expand (weight : α → Nat) (items : List α) (c : Nat) :
    (expand weight items)[c]? =
      (intervalOf c (items.map weight)).bind fun i => items[i]? := by
  induction items generalizing c with
  | nil => rfl
  | cons a items ih =>
      rw [expand_cons, List.map_cons, intervalOf]
      by_cases h : c < weight a
      · have hlength : c < (List.replicate (weight a) a).length := by
          rwa [List.length_replicate]
        rw [List.getElem?_append_left hlength, if_pos h, Option.bind_some,
          List.getElem?_replicate, if_pos h, List.getElem?_cons_zero]
      · have hlength : (List.replicate (weight a) a).length ≤ c := by
          rw [List.length_replicate]
          omega
        rw [List.getElem?_append_right hlength, if_neg h,
          List.length_replicate, ih, Option.bind_map]
        rfl

/-- What consecutive counters read is a rotation. -/
theorem forall₂_rotate {β : Type} {R : β → α → Prop} {window : List β}
    {items : List α} {start : Nat} (hlength : window.length = items.length)
    (h : ∀ k b a, window[k]? = some b →
      items[(start + k) % items.length]? = some a → R b a) :
    List.Forall₂ R window (items.rotate start) := by
  apply List.forall₂_iff_get.mpr
  constructor
  · rw [List.length_rotate, hlength]
  · intro k hk hrotate
    have hitems : k < items.length := hlength ▸ hk
    apply h k
    · exact List.getElem?_eq_getElem hk
    · rw [Nat.add_comm, ← List.getElem?_rotate hitems]
      exact List.getElem?_eq_getElem hrotate

end ServiceRouter.Foundation.Rotation
