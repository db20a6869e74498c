import Mathlib.Data.List.Basic

/-!
# The leading run of a list

The values of a partial function on the items of a list, up to the first item
on which it has none.
-/

namespace ServiceRouter.Foundation

variable {α β : Type} {f : α → Option β}

def leading (f : α → Option β) : List α → List β
  | [] => []
  | a :: items =>
      match f a with
      | some b => b :: leading f items
      | none => []

/-- Every item has a value, so the run has not ended. -/
def Unbroken (f : α → Option β) (items : List α) : Prop :=
  ∀ a ∈ items, (f a).isSome = true

theorem unbroken_nil : Unbroken f [] := by
  intro a ha
  cases ha

theorem Unbroken.concat {items : List α} (h : Unbroken f items) {a : α} {b : β}
    (ha : f a = some b) : Unbroken f (items ++ [a]) := by
  intro c hc
  rcases List.mem_append.mp hc with hc | hc
  · exact h c hc
  · rw [List.mem_singleton.mp hc, ha]
    rfl

theorem leading_append {items : List α} (h : Unbroken f items)
    (rest : List α) :
    leading f (items ++ rest) = leading f items ++ leading f rest := by
  induction items with
  | nil => rfl
  | cons a items ih =>
      obtain ⟨b, hb⟩ := Option.isSome_iff_exists.mp (h a List.mem_cons_self)
      have hrest := ih fun c hc => h c (List.mem_cons_of_mem _ hc)
      simp only [List.cons_append, leading, hb, hrest]

theorem leading_concat_of_some {items : List α} (h : Unbroken f items) {a : α}
    {b : β} (ha : f a = some b) :
    leading f (items ++ [a]) = leading f items ++ [b] := by
  rw [leading_append h]
  simp only [leading, ha]

theorem leading_concat_of_none {items : List α} (h : Unbroken f items) {a : α}
    (ha : f a = none) : leading f (items ++ [a]) = leading f items := by
  rw [leading_append h]
  simp only [leading, ha, List.append_nil]

/-- Where a value determines its item, an unbroken list is given by its
run. -/
theorem eq_map_leading {g : β → α} (hg : ∀ a b, f a = some b → a = g b)
    {items : List α} (h : Unbroken f items) :
    items = (leading f items).map g := by
  induction items with
  | nil => rfl
  | cons a items ih =>
      obtain ⟨b, hb⟩ := Option.isSome_iff_exists.mp (h a List.mem_cons_self)
      have hrest := ih fun c hc => h c (List.mem_cons_of_mem _ hc)
      rw [leading, hb, List.map_cons, ← hrest, ← hg a b hb]

end ServiceRouter.Foundation
