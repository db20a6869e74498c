import Mathlib.Data.List.Forall2
import Mathlib.Data.List.Perm.Basic

/-!
# Fallible computations

When sequences, `List.mapM` and `List.forM` in `Except` succeed: exactly when
every part does.
-/

namespace ServiceRouter.Foundation

variable {α β ε : Type}

theorem bind_eq_ok_iff {x : Except ε α} {f : α → Except ε β} {b : β} :
    x >>= f = .ok b ↔ ∃ a, x = .ok a ∧ f a = .ok b := by
  cases x with
  | error e => simp [bind, Except.bind]
  | ok a => simp [bind, Except.bind]

theorem mapError_eq_ok_iff {ε' : Type} {x : Except ε α} {f : ε → ε'} {a : α} :
    x.mapError f = .ok a ↔ x = .ok a := by
  cases x <;> simp [Except.mapError]

theorem mapM_eq_ok_iff {f : α → Except ε β} {items : List α}
    {results : List β} :
    items.mapM f = .ok results ↔
      List.Forall₂ (fun a b => f a = .ok b) items results := by
  induction items generalizing results with
  | nil => cases results <;> simp [pure, Except.pure]
  | cons a items ih =>
      rw [List.mapM_cons]
      cases ha : f a with
      | error e => cases results <;> simp [bind, Except.bind, ha]
      | ok b =>
          cases htail : items.mapM f with
          | error e =>
              cases results <;> simp [bind, Except.bind, ← ih, htail]
          | ok rest =>
              cases results <;>
                simp [bind, Except.bind, pure, Except.pure, ← ih, htail, ha]

theorem mapM_eq_ok_iff_map {f : α → Except ε β} {items : List α}
    {results : List β} :
    items.mapM f = .ok results ↔ items.map f = results.map .ok := by
  rw [mapM_eq_ok_iff, ← List.forall₂_eq_eq_eq, List.forall₂_map_left_iff,
    List.forall₂_map_right_iff]

theorem eq_filterMap_of_mapM_eq_ok {f : α → Except ε β} {items : List α}
    {results : List β} (h : items.mapM f = .ok results) :
    results = items.filterMap fun a => (f a).toOption := by
  have hsome := congrArg (List.filterMap Except.toOption)
    (mapM_eq_ok_iff_map.mp h)
  rw [List.filterMap_map, List.filterMap_map] at hsome
  have hall : (Except.toOption ∘ (Except.ok : β → Except ε β)) = some := rfl
  rw [hall, List.filterMap_some] at hsome
  exact hsome.symm

theorem mapM_perm {f : α → Except ε β} {items items' : List α}
    {results results' : List β} (hperm : items.Perm items')
    (h : items.mapM f = .ok results) (h' : items'.mapM f = .ok results') :
    results.Perm results' := by
  have hinj : Function.Injective (Except.ok : β → Except ε β) :=
    fun _ _ h => Except.ok.inj h
  rw [← List.map_perm_map_iff hinj, ← mapM_eq_ok_iff_map.mp h,
    ← mapM_eq_ok_iff_map.mp h']
  exact hperm.map f

theorem exists_mapM_eq_ok_iff {f : α → Except ε β} {items : List α} :
    (∃ results, items.mapM f = .ok results) ↔
      ∀ a ∈ items, ∃ b, f a = .ok b := by
  simp only [mapM_eq_ok_iff]
  constructor
  · rintro ⟨results, h⟩ a ha
    induction h with
    | nil => simp at ha
    | cons hb _ ih =>
        rcases List.mem_cons.mp ha with rfl | ha
        · exact ⟨_, hb⟩
        · exact ih ha
  · intro h
    induction items with
    | nil => exact ⟨[], .nil⟩
    | cons a items ih =>
        obtain ⟨b, hb⟩ := h a List.mem_cons_self
        obtain ⟨rest, hrest⟩ := ih fun a ha => h a (List.mem_cons_of_mem _ ha)
        exact ⟨b :: rest, .cons hb hrest⟩

theorem forM_eq_ok_iff {f : α → Except ε PUnit} {items : List α} :
    items.forM f = .ok ⟨⟩ ↔ ∀ a ∈ items, f a = .ok ⟨⟩ := by
  induction items with
  | nil => simp [List.forM, pure, Except.pure]
  | cons a items ih =>
      rw [List.forM]
      cases ha : f a with
      | error e => simp [bind, Except.bind, ha]
      | ok _ => simpa [bind, Except.bind, ha] using ih

end ServiceRouter.Foundation
