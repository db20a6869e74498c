import Mathlib.Data.List.Basic

/-!
# Keeping the first element of each key

`keepFirst` drops every element whose key an earlier element has.  A loop that
remembers the keys it has seen computes it, and the result for the front of a
list is the front of the result.
-/

namespace ServiceRouter.Foundation

variable {α κ : Type*} [DecidableEq κ]

def keepFirst (key : α → κ) : List α → List α
  | [] => []
  | a :: items => a :: (keepFirst key items).filter fun b => key b ≠ key a

/-- One turn of the loop: the keys seen so far and the elements kept. -/
def keepUnseen (key : α → κ) (state : List κ × List α) (a : α) :
    List κ × List α :=
  if key a ∈ state.1 then state else (key a :: state.1, state.2 ++ [a])

theorem keepFirst_eq_nil {key : α → κ} {items : List α} :
    keepFirst key items = [] ↔ items = [] := by
  cases items <;> simp [keepFirst]

theorem foldl_keepUnseen (key : α → κ) (items : List α) (seen : List κ)
    (kept : List α) :
    (items.foldl (keepUnseen key) (seen, kept)).2 =
      kept ++ (keepFirst key items).filter fun a => key a ∉ seen := by
  induction items generalizing seen kept with
  | nil => simp [keepFirst]
  | cons a items ih =>
      rw [List.foldl_cons, keepUnseen, keepFirst]
      by_cases hseen : key a ∈ seen
      · rw [if_pos hseen, ih, List.filter_cons_of_neg (by simpa using hseen),
          List.filter_filter]
        congr 1
        apply List.filter_congr
        intro b _
        have hkey : key b ∉ seen → key b ≠ key a := fun hb heq =>
          hb (heq ▸ hseen)
        simpa using hkey
      · rw [if_neg hseen, ih, List.filter_cons_of_pos (by simpa using hseen),
          List.filter_filter, List.append_assoc, List.singleton_append]
        congr 2
        apply List.filter_congr
        intro b _
        simp [Bool.and_comm]

/-- The loop started with nothing seen. -/
theorem foldl_keepUnseen_nil (key : α → κ) (items : List α) :
    (items.foldl (keepUnseen key) ([], [])).2 = keepFirst key items := by
  simp [foldl_keepUnseen]

theorem keepFirst_map {β : Type*} (key : β → κ) (f : α → β) (items : List α) :
    keepFirst key (items.map f) = (keepFirst (key ∘ f) items).map f := by
  induction items with
  | nil => rfl
  | cons a items ih =>
      rw [List.map_cons, keepFirst, ih, keepFirst, List.map_cons,
        List.filter_map]
      rfl

/-- Keys that say the same keep the same elements. -/
theorem keepFirst_congr {κ' : Type*} [DecidableEq κ'] {key : α → κ}
    {key' : α → κ'} (h : ∀ a b, key a = key b ↔ key' a = key' b)
    (items : List α) : keepFirst key items = keepFirst key' items := by
  induction items with
  | nil => rfl
  | cons a items ih => simp [keepFirst, ih, h]

theorem mem_keepFirst_id {α : Type*} [DecidableEq α] {a : α}
    {items : List α} : a ∈ keepFirst id items ↔ a ∈ items := by
  induction items with
  | nil => simp [keepFirst]
  | cons b items ih =>
      rw [keepFirst, List.mem_cons, List.mem_cons, List.mem_filter, ih]
      by_cases hab : a = b
      · simp [hab]
      · simp [hab]

/-- An element is kept if no earlier one has its key. -/
theorem mem_keepFirst {key : α → κ} {a : α} {items : List α} :
    a ∈ keepFirst key items ↔
      items.find? (fun b => key b = key a) = some a := by
  induction items with
  | nil => simp [keepFirst]
  | cons b items ih =>
      rw [keepFirst, List.mem_cons, List.mem_filter, ih, List.find?_cons]
      by_cases hab : key b = key a
      · simp only [hab, decide_true, Option.some.injEq]
        constructor
        · rintro (rfl | ⟨-, hne⟩)
          · rfl
          · simp at hne
        · rintro rfl
          exact .inl rfl
      · have hne : a ≠ b := fun h => hab (congrArg key h.symm)
        simp [hab, hne, Ne.symm hab]

theorem nodup_map_keepFirst (key : α → κ) (items : List α) :
    ((keepFirst key items).map key).Nodup := by
  induction items with
  | nil => exact List.nodup_nil
  | cons a items ih =>
      rw [keepFirst, List.map_cons, List.nodup_cons]
      constructor
      · simp
      · exact ih.sublist (List.filter_sublist.map key)

theorem nodup_keepFirst_id {α : Type*} [DecidableEq α] (items : List α) :
    (keepFirst id items).Nodup := by
  induction items with
  | nil => exact List.nodup_nil
  | cons a items ih =>
      rw [keepFirst, List.nodup_cons]
      exact ⟨by simp, ih.filter _⟩

theorem keepFirst_append (key : α → κ) (front back : List α) :
    keepFirst key (front ++ back) =
      keepFirst key front ++
        (keepFirst key back).filter fun a => key a ∉ front.map key := by
  induction front with
  | nil => simp [keepFirst]
  | cons a front ih =>
      rw [List.cons_append, keepFirst, ih, keepFirst, List.filter_append,
        List.filter_filter, List.cons_append]
      congr 2
      apply List.filter_congr
      intro b _
      simp

/-! ## What a loop over the rest still keeps -/

/-- The elements that are kept when these keys have been seen before. -/
def keepFresh (key : α → κ) (seen : List κ) (items : List α) : List α :=
  (keepFirst key items).filter fun a => key a ∉ seen

theorem keepFresh_cons_of_seen {key : α → κ} {seen : List κ} {a : α}
    (h : key a ∈ seen) (items : List α) :
    keepFresh key seen (a :: items) = keepFresh key seen items := by
  rw [keepFresh, keepFirst, List.filter_cons_of_neg (by simpa using h),
    List.filter_filter]
  apply List.filter_congr
  intro b _
  have hkey : key b ∉ seen → key b ≠ key a := fun hb heq => hb (heq ▸ h)
  simpa using hkey

theorem keepFresh_cons_of_unseen {key : α → κ} {seen : List κ} {a : α}
    (h : key a ∉ seen) (items : List α) :
    keepFresh key seen (a :: items) =
      a :: keepFresh key (key a :: seen) items := by
  rw [keepFresh, keepFirst, List.filter_cons_of_pos (by simpa using h),
    List.filter_filter, keepFresh]
  congr 1
  apply List.filter_congr
  intro b _
  simp [Bool.and_comm]

/-- A loop over one part and then over the other keeps what one loop does. -/
theorem keepFresh_append {key : α → κ} {seen seen' : List κ}
    (front back : List α)
    (h : ∀ k, k ∈ seen' ↔ k ∈ seen ∨ k ∈ front.map key) :
    keepFresh key seen (front ++ back) =
      keepFresh key seen front ++ keepFresh key seen' back := by
  rw [keepFresh, keepFirst_append, List.filter_append, List.filter_filter,
    keepFresh, keepFresh]
  congr 1
  apply List.filter_congr
  intro b _
  simp [h]

theorem keepFirst_prefix (key : α → κ) (front back : List α) :
    keepFirst key front <+: keepFirst key (front ++ back) := by
  rw [keepFirst_append]
  exact List.prefix_append _ _

end ServiceRouter.Foundation
