import Mathlib.Data.List.DropRight
import Mathlib.Algebra.Ring.Parity

/-!
# Words that take the next one

Lines are read from the left, and a word that takes a value takes the word
after it, whatever that is.  The last word is left without a value exactly if
an odd number of such words stand at the end of the line.
-/

namespace ServiceRouter.Foundation

variable {α : Type} (takes : α → Bool)

/-- Whether a word is left without the value it takes. -/
def lacksValue : List α → Bool
  | [] => false
  | [a] => takes a
  | a :: b :: rest =>
      if takes a then lacksValue rest else lacksValue (b :: rest)

theorem lacksValue_cons_of_false {a : α} (ha : takes a = false)
    (rest : List α) :
    lacksValue takes (a :: rest) = lacksValue takes rest := by
  cases rest with
  | nil => simp [lacksValue, ha]
  | cons b rest => simp [lacksValue, ha]

theorem lacksValue_cons_cons {a : α} (ha : takes a = true) (b : α)
    (rest : List α) :
    lacksValue takes (a :: b :: rest) = lacksValue takes rest := by
  simp [lacksValue, ha]

private theorem rtakeWhile_cons_of_false {a : α} (ha : takes a = false)
    (rest : List α) :
    (a :: rest).rtakeWhile takes = rest.rtakeWhile takes := by
  rw [List.rtakeWhile, List.rtakeWhile, List.reverse_cons,
    List.takeWhile_append]
  split_ifs with hall
  · have hself : rest.reverse.takeWhile takes = rest.reverse :=
      (List.takeWhile_sublist takes).eq_of_length hall
    rw [hself]
    simp [ha]
  · rfl

private theorem rtakeWhile_cons_of_not_all {rest : List α}
    (hrest : ¬ ∀ b ∈ rest, takes b = true) (a : α) :
    (a :: rest).rtakeWhile takes = rest.rtakeWhile takes := by
  rw [List.rtakeWhile, List.rtakeWhile, List.reverse_cons,
    List.takeWhile_append, if_neg]
  intro hall
  apply hrest
  have hself := (List.takeWhile_sublist takes).eq_of_length hall
  simpa using hself

theorem lacksValue_iff (words : List α) :
    lacksValue takes words = true ↔
      Odd (words.rtakeWhile takes).length := by
  induction words using lacksValue.induct takes with
  | case1 => simp [lacksValue]
  | case2 a =>
      cases ha : takes a with
      | true => simp [lacksValue, List.rtakeWhile, ha]
      | false => simp [lacksValue, List.rtakeWhile, ha]
  | case3 a b rest ha ih =>
      rw [lacksValue_cons_cons takes ha, ih]
      -- The two words in front of the rest are counted together or not at all.
      by_cases hall : ∀ c ∈ b :: rest, takes c = true
      · have hrest : ∀ c ∈ rest, takes c = true := by
          intro c hc
          apply hall c (List.mem_cons_of_mem b hc)
        have hline : ∀ c ∈ a :: b :: rest, takes c = true :=
          List.forall_mem_cons.mpr ⟨ha, hall⟩
        rw [List.rtakeWhile_eq_self_iff.mpr hrest,
          List.rtakeWhile_eq_self_iff.mpr hline, Nat.odd_iff, Nat.odd_iff,
          List.length_cons, List.length_cons]
        omega
      · rw [rtakeWhile_cons_of_not_all takes hall]
        cases hb : takes b with
        | false => rw [rtakeWhile_cons_of_false takes hb]
        | true =>
            have hrest : ¬ ∀ c ∈ rest, takes c = true := by
              intro hrest
              apply hall (List.forall_mem_cons.mpr ⟨hb, hrest⟩)
            rw [rtakeWhile_cons_of_not_all takes hrest]
  | case4 a b rest ha ih =>
      have hfalse := Bool.eq_false_iff.mpr ha
      rw [lacksValue_cons_of_false takes hfalse, ih,
        rtakeWhile_cons_of_false takes hfalse]

end ServiceRouter.Foundation
