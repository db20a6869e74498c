import Mathlib.Data.List.Basic

/-!
# What a loop adds up

A loop over a list, seen through one observation of its state.  Each rule needs
only what one step does to the observation.
-/

namespace ServiceRouter.Foundation

variable {σ α β : Type} {step : σ → α → σ}

/-- What no step changes is not changed. -/
theorem foldl_unchanged (f : σ → β) (hstep : ∀ s a, f (step s a) = f s)
    (items : List α) (s : σ) : f (items.foldl step s) = f s := by
  induction items generalizing s with
  | nil => rfl
  | cons a items ih => rw [List.foldl_cons, ih, hstep]

/-- A counter grows by the number of the items that it counts. -/
theorem foldl_count (counter : σ → Nat) {counted : α → Bool}
    (hstep : ∀ s a, counter (step s a) =
      counter s + if counted a then 1 else 0)
    (items : List α) (s : σ) :
    counter (items.foldl step s) = counter s + items.countP counted := by
  induction items generalizing s with
  | nil => rfl
  | cons a items ih =>
      rw [List.foldl_cons, ih, hstep, List.countP_cons, Nat.add_assoc,
        Nat.add_comm (items.countP counted)]

/-- A flag that items set, and none resets, is set if some item sets it. -/
theorem foldl_flag (flag : σ → Prop) {sets : α → Prop}
    (hstep : ∀ s a, flag (step s a) ↔ flag s ∨ sets a)
    (items : List α) (s : σ) :
    flag (items.foldl step s) ↔ flag s ∨ ∃ a ∈ items, sets a := by
  induction items generalizing s with
  | nil => simp
  | cons a items ih =>
      rw [List.foldl_cons, ih, hstep, or_assoc, List.exists_mem_cons_iff]

end ServiceRouter.Foundation
