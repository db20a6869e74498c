import Mathlib.Logic.Relation

/-!
# While loops

A loop runs its body as long as the test holds.  A run has fuel for a number of
tests; the states that a loop reaches need none.  A loop whose body lowers a
measure or else changes nothing returns exactly if it lowers the measure in
every iteration that it reaches.
-/

namespace ServiceRouter.Foundation

structure WhileLoop (σ : Type) where
  test : σ → Bool
  body : σ → σ

namespace WhileLoop

variable {σ : Type} (loop : WhileLoop σ)

/-- Run a loop that makes at most `fuel` tests. -/
def run : Nat → σ → Option σ
  | 0, _ => none
  | fuel + 1, s =>
      if loop.test s then run fuel (loop.body s) else some s

def Returns (s : σ) : Prop :=
  ∃ fuel t, loop.run fuel s = some t

def Iteration (s t : σ) : Prop :=
  loop.test s = true ∧ t = loop.body s

def Reaches : σ → σ → Prop :=
  Relation.ReflTransGen loop.Iteration

variable {loop}

/-! ## Reached states -/

theorem Reaches.keeps {p : σ → Prop}
    (hbody : ∀ s, loop.test s = true → p s → p (loop.body s)) {s t : σ}
    (h : loop.Reaches s t) (hs : p s) : p t := by
  induction h with
  | refl => exact hs
  | tail _ hiteration ih =>
      obtain ⟨htest, rfl⟩ := hiteration
      apply hbody _ htest ih

theorem Reaches.body {s t : σ} (hs : loop.test s = true)
    (h : loop.Reaches (loop.body s) t) : loop.Reaches s t :=
  h.head ⟨hs, rfl⟩

theorem reaches_of_run {fuel : Nat} {s t : σ}
    (h : loop.run fuel s = some t) :
    loop.Reaches s t ∧ loop.test t = false := by
  induction fuel generalizing s with
  | zero =>
      change none = some t at h
      contradiction
  | succ fuel ih =>
      rw [run] at h
      cases htest : loop.test s with
      | true =>
          rw [htest, if_pos rfl] at h
          have hrest := ih h
          constructor
          · apply hrest.1.body htest
          · exact hrest.2
      | false =>
          rw [htest, if_neg Bool.false_ne_true] at h
          cases h
          constructor
          · apply Relation.ReflTransGen.refl
          · exact htest

/-! ## Returning -/

theorem returns_of_test_false {s : σ} (hs : loop.test s = false) :
    loop.Returns s :=
  ⟨1, s, by simp [run, hs]⟩

theorem returns_body_iff {s : σ} (hs : loop.test s = true) :
    loop.Returns (loop.body s) ↔ loop.Returns s := by
  constructor
  · intro h
    obtain ⟨fuel, t, hrun⟩ := h
    exact ⟨fuel + 1, t, by rw [run, if_pos hs, hrun]⟩
  · intro h
    obtain ⟨fuel, t, hrun⟩ := h
    cases fuel with
    | zero =>
        change none = some t at hrun
        contradiction
    | succ fuel =>
        rw [run, if_pos hs] at hrun
        exact ⟨fuel, t, hrun⟩

theorem returns_of_lowers (measure : σ → Nat) {s : σ}
    (hlowers : ∀ t, loop.Reaches s t → loop.test t = true →
      measure (loop.body t) < measure t) :
    loop.Returns s := by
  induction hn : measure s using Nat.strongRecOn generalizing s with
  | ind n ih =>
      cases htest : loop.test s with
      | false => apply returns_of_test_false htest
      | true =>
          have hlower := hlowers s .refl htest
          rw [← returns_body_iff htest]
          apply ih _ (hn ▸ hlower) _ rfl
          intro t ht
          apply hlowers t (ht.body htest)

theorem returns_of_reaches {s t : σ} (h : loop.Reaches s t)
    (hs : loop.Returns s) : loop.Returns t :=
  h.keeps (fun _ htest => (returns_body_iff htest).mpr) hs

/-- A state that the body leaves as it is repeats for ever. -/
theorem not_returns_of_fixed {s : σ} (htest : loop.test s = true)
    (hfixed : loop.body s = s) : ¬ loop.Returns s := by
  intro h
  obtain ⟨fuel, t, hrun⟩ := h
  induction fuel with
  | zero =>
      change none = some t at hrun
      contradiction
  | succ fuel ih =>
      rw [run, if_pos htest, hfixed] at hrun
      apply ih hrun

theorem returns_iff_lowers (measure : σ → Nat)
    (hbody : ∀ t, loop.test t = true →
      measure (loop.body t) < measure t ∨ loop.body t = t) {s : σ} :
    loop.Returns s ↔ ∀ t, loop.Reaches s t → loop.test t = true →
      measure (loop.body t) < measure t := by
  constructor
  · intro h t hreaches htest
    cases hbody t htest with
    | inl hlower => exact hlower
    | inr hfixed =>
        have hreturns := returns_of_reaches hreaches h
        exact absurd hreturns (not_returns_of_fixed htest hfixed)
  · apply returns_of_lowers measure

end WhileLoop

end ServiceRouter.Foundation
