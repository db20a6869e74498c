import Mathlib.Data.List.Basic
import Mathlib.Data.List.Infix

/-!
# Hysteresis

A sequence of good and bad results marks its subject once enough bad results
in a row have come, and clears it once enough good results in a row have come
after that.  `Marked` says so of the whole sequence; the last lemmas say what
one more result does.
-/

namespace ServiceRouter.Foundation

/-! ## The run at the end of a list -/

section TrailingRun

variable {α : Type} [DecidableEq α] {a b : α} {items : List α} {n : Nat}

/-- How often `a` stands at the end of the list. -/
def trailing (a : α) (items : List α) : Nat :=
  (items.reverse.takeWhile fun b => b = a).length

@[simp] theorem trailing_nil (a : α) : trailing a [] = 0 := rfl

@[simp] theorem trailing_concat_self (a : α) (items : List α) :
    trailing a (items ++ [a]) = trailing a items + 1 := by
  simp [trailing]

theorem trailing_concat_of_ne (h : b ≠ a) (items : List α) :
    trailing a (items ++ [b]) = 0 := by
  simp [trailing, h]

theorem trailing_eq_zero_or (h : a ≠ b) (items : List α) :
    trailing a items = 0 ∨ trailing b items = 0 := by
  cases items using List.reverseRecOn with
  | nil => exact .inl (trailing_nil a)
  | append_singleton items last =>
      by_cases hlast : last = a
      · subst hlast
        exact .inr (trailing_concat_of_ne h items)
      · exact .inl (trailing_concat_of_ne hlast items)

/-- A run does not reach over another item. -/
theorem trailing_append_cons (h : b ≠ a) (before after : List α) :
    trailing a (before ++ b :: after) = trailing a after := by
  induction after using List.reverseRecOn with
  | nil => exact trailing_concat_of_ne h before
  | append_singleton after last ih =>
      rw [← List.cons_append, ← List.append_assoc]
      by_cases hlast : last = a
      · subst hlast
        rw [trailing_concat_self, trailing_concat_self, ih]
      · rw [trailing_concat_of_ne hlast, trailing_concat_of_ne hlast]

theorem replicate_suffix_iff :
    List.replicate n a <:+ items ↔ n ≤ trailing a items := by
  induction items using List.reverseRecOn generalizing n with
  | nil => simp [List.replicate_eq_nil_iff]
  | append_singleton items b ih =>
      cases n with
      | zero => simp
      | succ n =>
          rw [List.replicate_succ', List.suffix_concat_iff]
          by_cases h : b = a
          · subst h
            simp [ih]
          · rw [trailing_concat_of_ne h]
            simp [Ne.symm h]

theorem not_replicate_suffix_concat (h : b ≠ a) (hpos : 0 < n) :
    ¬ List.replicate n a <:+ items ++ [b] := by
  rw [replicate_suffix_iff, trailing_concat_of_ne h]
  omega

end TrailingRun

/-! ## Marked sequences -/

section Marked

variable {bad good : Nat} {history : List Bool}

/-- At some point at least `bad` results in a row were bad, and since then
there were never `good` good results in a row. -/
def Marked (bad good : Nat) (history : List Bool) : Prop :=
  ∃ before after, history = before ++ after ∧
    List.replicate bad false <:+ before ∧
    ¬ List.replicate good true <:+: after

theorem not_marked_nil (hbad : 0 < bad) : ¬ Marked bad good [] := by
  rintro ⟨before, after, hsplit, hsuffix, -⟩
  obtain ⟨rfl, -⟩ := List.append_eq_nil_iff.mp hsplit.symm
  rw [replicate_suffix_iff, trailing_nil] at hsuffix
  omega

/-- The point may be the end of the sequence. -/
private theorem marked_concat_cases {last : Bool}
    (h : Marked bad good (history ++ [last])) :
    List.replicate bad false <:+ history ++ [last] ∨
      Marked bad good history := by
  obtain ⟨before, after, hsplit, hsuffix, hnever⟩ := h
  cases after using List.reverseRecOn with
  | nil =>
      rw [List.append_nil] at hsplit
      exact .inl (hsplit ▸ hsuffix)
  | append_singleton after last' =>
      rw [← List.append_assoc] at hsplit
      obtain ⟨rfl, -⟩ := List.append_inj' hsplit rfl
      refine .inr ⟨before, after, rfl, hsuffix, fun hwithin => ?_⟩
      exact hnever (hwithin.trans (List.infix_append' [] after [last']))

/-- Good results in a row reach back at most to the last bad one, so a marked
sequence does not end in enough of them. -/
theorem Marked.not_suffix (h : Marked bad good history) (hbad : 0 < bad) :
    ¬ List.replicate good true <:+ history := by
  obtain ⟨before, after, rfl, hbefore, hnever⟩ := h
  obtain ⟨bad, rfl⟩ := Nat.exists_eq_add_of_lt hbad
  obtain ⟨start, rfl⟩ := hbefore
  intro hend
  rw [Nat.zero_add, List.replicate_succ', ← List.append_assoc,
    List.append_assoc, List.singleton_append, replicate_suffix_iff,
    trailing_append_cons (by decide)] at hend
  exact hnever (replicate_suffix_iff.mpr hend).isInfix

theorem marked_concat_false (hgood : 0 < good) :
    Marked bad good (history ++ [false]) ↔
      Marked bad good history ∨ bad ≤ trailing false history + 1 := by
  rw [← trailing_concat_self, ← replicate_suffix_iff]
  constructor
  · intro h
    exact (marked_concat_cases h).symm
  · rintro (⟨before, after, rfl, hsuffix, hnever⟩ | hsuffix)
    · refine ⟨before, after ++ [false], by simp, hsuffix, ?_⟩
      rw [List.infix_concat_iff]
      rintro (hlast | hwithin)
      · exact not_replicate_suffix_concat (by decide) hgood hlast
      · exact hnever hwithin
    · refine ⟨history ++ [false], [], by simp, hsuffix, ?_⟩
      rw [List.infix_nil, List.replicate_eq_nil_iff]
      omega

theorem marked_concat_true (hbad : 0 < bad) :
    Marked bad good (history ++ [true]) ↔
      Marked bad good history ∧ ¬ good ≤ trailing true history + 1 := by
  rw [← trailing_concat_self, ← replicate_suffix_iff]
  constructor
  · intro h
    refine ⟨?_, h.not_suffix hbad⟩
    cases marked_concat_cases h with
    | inl hsuffix =>
        exact absurd hsuffix (not_replicate_suffix_concat (by decide) hbad)
    | inr hbefore => exact hbefore
  · rintro ⟨⟨before, after, rfl, hsuffix, hnever⟩, hlast⟩
    refine ⟨before, after ++ [true], by simp, hsuffix, ?_⟩
    rw [List.infix_concat_iff]
    rintro (hend | hwithin)
    · apply hlast
      rw [List.append_assoc]
      exact hend.trans (List.suffix_append before _)
    · exact hnever hwithin

/-- Enough bad results mark the sequence until enough good ones come. -/
theorem marked_of_replicate {n : Nat} {later : List Bool} (henough : bad ≤ n)
    (hnot : ¬ List.replicate good true <:+: later) :
    Marked bad good (history ++ List.replicate n false ++ later) := by
  refine ⟨history ++ List.replicate n false, later, rfl, ?_, hnot⟩
  obtain ⟨extra, rfl⟩ := Nat.exists_eq_add_of_le' henough
  rw [List.replicate_add, ← List.append_assoc]
  exact List.suffix_append _ _

/-- Enough good results clear it until enough bad ones come. -/
theorem not_marked_of_replicate {n : Nat} {later : List Bool} (hbad : 0 < bad)
    (hgood : 0 < good) (henough : good ≤ n)
    (hnot : ¬ List.replicate bad false <:+: later) :
    ¬ Marked bad good (history ++ List.replicate n true ++ later) := by
  obtain ⟨extra, rfl⟩ := Nat.exists_eq_add_of_le' henough
  induction later using List.reverseRecOn with
  | nil =>
      rw [List.append_nil, List.replicate_add, ← List.append_assoc]
      exact fun h => h.not_suffix hbad (List.suffix_append _ _)
  | append_singleton later last ih =>
      rw [List.infix_concat_iff, not_or] at hnot
      rw [← List.append_assoc]
      cases last with
      | true =>
          rw [marked_concat_true hbad]
          exact fun h => ih hnot.2 h.1
      | false =>
          rw [marked_concat_false hgood, not_or, ← trailing_concat_self,
            ← replicate_suffix_iff]
          refine ⟨ih hnot.2, fun hsuffix => hnot.1 ?_⟩
          -- The good results before `later` end the run of bad ones.
          obtain ⟨good, rfl⟩ := Nat.exists_eq_add_of_lt hgood
          rw [show extra + (0 + good + 1) = extra + good + 1 by omega,
            List.replicate_succ', ← List.append_assoc, List.append_assoc,
            List.append_assoc, List.singleton_append, replicate_suffix_iff,
            trailing_append_cons (by decide)] at hsuffix
          exact replicate_suffix_iff.mpr hsuffix

end Marked

end ServiceRouter.Foundation
