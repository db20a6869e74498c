import Mathlib.Data.List.Basic

/-!
# Cells observed by the tags of their contents

A cell holds a tagged value and an observer keeps something derived from it.
The observer remembers the tag it saw last and derives anew when it sees
another one.  Tags may be reused, so a tag that has not changed does not mean
that nothing was stored.  The observer is up to date after each of its looks
if it notices every store.
-/

namespace ServiceRouter.Foundation

structure PolledCell (τ α β : Type) where
  tag : τ
  value : α
  seen : Option τ
  derived : β

namespace PolledCell

inductive Step (τ α : Type) where
  | store (tag : τ) (value : α)
  | look

variable {τ α β : Type} [DecidableEq τ] (derive : α → Option β)

def store (cell : PolledCell τ α β) (tag : τ) (value : α) :
    PolledCell τ α β :=
  { cell with tag := tag, value := value }

/-- The first look only remembers the tag.  What cannot be derived leaves the
derived part as it is. -/
def look (cell : PolledCell τ α β) : PolledCell τ α β :=
  match cell.seen with
  | none => { cell with seen := some cell.tag }
  | some seen =>
      if cell.tag = seen then cell
      else { cell with
        seen := some cell.tag
        derived := (derive cell.value).getD cell.derived }

def step (cell : PolledCell τ α β) : Step τ α → PolledCell τ α β
  | .store tag value => cell.store tag value
  | .look => cell.look derive

def run (cell : PolledCell τ α β) (steps : List (Step τ α)) :
    PolledCell τ α β :=
  steps.foldl (step derive) cell

@[simp] theorem run_append (cell : PolledCell τ α β)
    (first second : List (Step τ α)) :
    cell.run derive (first ++ second) =
      (cell.run derive first).run derive second :=
  List.foldl_append

@[simp] theorem look_value (cell : PolledCell τ α β) :
    (cell.look derive).value = cell.value := by
  unfold look
  split
  · rfl
  · split <;> rfl

@[simp] theorem look_tag (cell : PolledCell τ α β) :
    (cell.look derive).tag = cell.tag := by
  unfold look
  split
  · rfl
  · split <;> rfl

@[simp] theorem look_seen (cell : PolledCell τ α β) :
    (cell.look derive).seen = some cell.tag := by
  unfold look
  split
  · rfl
  · next seen hseen =>
      by_cases hsame : cell.tag = seen
      · rw [if_pos hsame, hseen, hsame]
      · rw [if_neg hsame]

def UpToDate (cell : PolledCell τ α β) : Prop :=
  derive cell.value = some cell.derived

/-- Stored values get tags other than the one they replace. -/
def TagsFresh : τ → List (Step τ α) → Prop
  | _, [] => True
  | current, .store tag _ :: rest => tag ≠ current ∧ TagsFresh tag rest
  | current, .look :: rest => TagsFresh current rest

/-- Every look that comes after a store sees another tag than the look before
it, and there was one.  `stored` says whether something was stored since the
last look, `current` is the tag of the cell and `seen` the one remembered. -/
def Noticed : Bool → τ → Option τ → List (Step τ α) → Prop
  | _, _, _, [] => True
  | _, _, seen, .store tag _ :: rest => Noticed true tag seen rest
  | stored, current, seen, .look :: rest =>
      (stored = true → ∃ last, seen = some last ∧ current ≠ last) ∧
        Noticed false current (some current) rest

variable {derive}

theorem upToDate_look {stored : Bool} {cell : PolledCell τ α β}
    (hclean : stored = false → cell.UpToDate derive)
    (hnoticed : stored = true →
      ∃ last, cell.seen = some last ∧ cell.tag ≠ last)
    (hderive : ∃ b, derive cell.value = some b) :
    (cell.look derive).UpToDate derive := by
  cases stored with
  | false =>
      have hcell := hclean rfl
      unfold UpToDate at hcell ⊢
      unfold look
      split
      · exact hcell
      · split
        · exact hcell
        · simp [hcell]
  | true =>
      obtain ⟨last, hlast, hne⟩ := hnoticed rfl
      obtain ⟨b, hb⟩ := hderive
      unfold UpToDate look
      simp [hlast, if_neg hne, hb]

/-- In a run that notices every store, the cell is up to date after each
look. -/
theorem upToDate_after_look {stored : Bool} {cell : PolledCell τ α β}
    {before after : List (Step τ α)}
    (hclean : stored = false → cell.UpToDate derive)
    (hderive : ∃ b, derive cell.value = some b)
    (hstored : ∀ tag value, .store tag value ∈ before →
      ∃ b, derive value = some b)
    (hnoticed : Noticed stored cell.tag cell.seen (before ++ .look :: after)) :
    (cell.run derive (before ++ [.look])).UpToDate derive := by
  induction before generalizing cell stored with
  | nil => exact upToDate_look hclean hnoticed.1 hderive
  | cons s before ih =>
      have hrest (tag : τ) (value : α) (h : .store tag value ∈ before) :=
        hstored tag value (List.mem_cons_of_mem _ h)
      cases s with
      | store tag value =>
          refine ih ?_ ?_ hrest hnoticed
          · intro h
            cases h
          · exact hstored tag value List.mem_cons_self
      | look =>
          have hlook := upToDate_look hclean hnoticed.1 hderive
          have hvalue : ∃ b, derive (cell.look derive).value = some b := by
            rw [look_value]
            exact hderive
          have hnext : Noticed false (cell.look derive).tag
              (cell.look derive).seen (before ++ .look :: after) := by
            rw [look_tag, look_seen]
            exact hnoticed.2
          exact ih (fun _ => hlook) hvalue hrest hnext

end PolledCell

end ServiceRouter.Foundation
