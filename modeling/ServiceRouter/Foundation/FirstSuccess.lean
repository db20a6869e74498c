import Mathlib.Data.ENat.Lattice
import Mathlib.Data.Stream.Defs

/-!
# The first success of a stream of trials

How many trials fail before the first that succeeds, without a bound and when
only so many failures are allowed.
-/

namespace ServiceRouter.Foundation

variable {α : Type*}

/-- Infinite when every trial fails. -/
noncomputable def failuresBeforeSuccess (succeeds : α → Bool)
    (trials : Stream' α) : ℕ∞ :=
  sInf {n | ∃ i : ℕ, n = i ∧ succeeds (trials.get i) = true}

/-- The failures before the first success, counted up to `bound`. -/
def failuresWithin (succeeds : α → Bool) : ℕ → Stream' α → ℕ
  | 0, _ => 0
  | bound + 1, trials =>
      if succeeds trials.head then 0
      else failuresWithin succeeds bound trials.tail + 1

variable {succeeds : α → Bool}

theorem failuresWithin_le (bound : ℕ) (trials : Stream' α) :
    failuresWithin succeeds bound trials ≤ bound := by
  induction bound generalizing trials with
  | zero => exact Nat.le_refl 0
  | succ bound ih =>
      have hrest := ih trials.tail
      rw [failuresWithin]
      split
      · omega
      · omega

theorem fails_of_lt_failuresWithin {bound i : ℕ} {trials : Stream' α}
    (h : i < failuresWithin succeeds bound trials) :
    succeeds (trials.get i) = false := by
  induction bound generalizing trials i with
  | zero => exact absurd h (Nat.not_lt_zero i)
  | succ bound ih =>
      rw [failuresWithin] at h
      split at h
      · exact absurd h (Nat.not_lt_zero i)
      · rename_i hfirst
        cases i with
        | zero => exact Bool.not_eq_true _ ▸ hfirst
        | succ i =>
            have hrest : i < failuresWithin succeeds bound trials.tail := by
              omega
            have htail : succeeds (trials.tail.get i) = false := ih hrest
            exact htail

theorem succeeds_or_failuresWithin_eq (succeeds : α → Bool) (bound : ℕ)
    (trials : Stream' α) :
    succeeds (trials.get (failuresWithin succeeds bound trials)) = true ∨
      failuresWithin succeeds bound trials = bound := by
  induction bound generalizing trials with
  | zero => exact Or.inr rfl
  | succ bound ih =>
      rw [failuresWithin]
      split
      · rename_i hfirst
        exact Or.inl hfirst
      · cases ih trials.tail with
        | inl hsuccess => exact Or.inl hsuccess
        | inr hall => exact Or.inr (by rw [hall])

theorem failuresWithin_eq_min (bound : ℕ) (trials : Stream' α) :
    (failuresWithin succeeds bound trials : ℕ∞) =
      min (failuresBeforeSuccess succeeds trials) bound := by
  have hlower : (failuresWithin succeeds bound trials : ℕ∞) ≤
      failuresBeforeSuccess succeeds trials := by
    apply le_sInf
    rintro n ⟨i, rfl, hi⟩
    rw [Nat.cast_le]
    by_contra hlt
    simp [fails_of_lt_failuresWithin (not_le.mp hlt)] at hi
  have hbound : (failuresWithin succeeds bound trials : ℕ∞) ≤ bound := by
    rw [Nat.cast_le]
    apply failuresWithin_le
  apply le_antisymm
  · exact le_min hlower hbound
  · cases succeeds_or_failuresWithin_eq succeeds bound trials with
    | inl hsuccess => exact (min_le_left _ _).trans (sInf_le ⟨_, rfl, hsuccess⟩)
    | inr hall => exact (min_le_right _ _).trans (by rw [hall])

end ServiceRouter.Foundation
