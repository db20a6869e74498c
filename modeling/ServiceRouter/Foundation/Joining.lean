import ServiceRouter.Foundation.Interaction

/-!
# Programs that run at the same time and are all waited for

A join starts several programs, whose exchanges may interleave in any order,
and yields their results in the order of the programs once all have returned.
-/

namespace ServiceRouter.Foundation

variable {I : Interface} {α : Type}

namespace Program

/-- The exchanges of a run determine what it returns. -/
theorem Returns.unique {p : Program I α} {log : List (Exchange I)} {a b : α}
    (ha : p.Returns log a) (hb : p.Returns log b) : a = b := by
  induction p generalizing log with
  | done c =>
      obtain ⟨-, rfl⟩ := returns_done.mp ha
      exact (returns_done.mp hb).2
  | abort message => exact absurd ha not_returns_abort
  | call op next ih =>
      obtain ⟨reply, rest, rfl, hfirst⟩ := returns_call.mp ha
      obtain ⟨reply', rest', heq, hsecond⟩ := returns_call.mp hb
      cases heq
      exact ih reply hfirst hsecond

end Program

structure Joins (programs : List (Program I α)) (events : List (Event I))
    (results : List α) : Prop where
  length : results.length = programs.length
  own : ∀ event ∈ events, event.program < programs.length
  returns : ∀ k (hk : k < programs.length) (hk' : k < results.length),
    (programs.get ⟨k, hk⟩).Returns (exchangesOf k events)
      (results.get ⟨k, hk'⟩)

namespace Joins

variable {programs : List (Program I α)} {events events' : List (Event I)}
  {results results' : List α}

/-- The order in which the programs are served does not matter. -/
theorem results_eq (h : Joins programs events results)
    (h' : Joins programs events' results')
    (hown : ∀ k, exchangesOf k events = exchangesOf k events') :
    results = results' := by
  refine List.ext_get (h.length.trans h'.length.symm) fun k hk hk' => ?_
  have hprogram : k < programs.length := h.length ▸ hk
  have hreturns := h'.returns k hprogram hk'
  rw [← hown k] at hreturns
  exact (h.returns k hprogram hk).unique hreturns

end Joins

end ServiceRouter.Foundation
