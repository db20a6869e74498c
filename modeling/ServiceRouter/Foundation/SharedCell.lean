import Mathlib.Data.List.Basic

/-!
# A cell that several parties read and write

Every read and every write is atomic.  In a history of a cell a read yields
what the last write before it has left, so that a value that is read is the
first one or was written before, and not before the reader's own last write.
-/

namespace ServiceRouter.Foundation

inductive CellAccess (σ : Type) where
  | read (value : σ)
  | write (value : σ)
  | other

section Histories

variable {E σ : Type} (access : E → CellAccess σ)

def cellAfterEvent (s : σ) (event : E) : σ :=
  match access event with
  | .write value => value
  | _ => s

def cellAfter (s : σ) (events : List E) : σ :=
  events.foldl (cellAfterEvent access) s

/-- Every read yields what the cell holds. -/
def CellAnswers : σ → List E → Prop
  | _, [] => True
  | s, event :: rest =>
      (∀ value, access event = .read value → value = s) ∧
        CellAnswers (cellAfterEvent access s event) rest

variable {access}

@[simp] theorem cellAfter_nil (s : σ) : cellAfter access s [] = s := rfl

@[simp] theorem cellAfter_cons (s : σ) (event : E) (rest : List E) :
    cellAfter access s (event :: rest) =
      cellAfter access (cellAfterEvent access s event) rest := rfl

theorem cellAfter_append (s : σ) (first second : List E) :
    cellAfter access s (first ++ second) =
      cellAfter access (cellAfter access s first) second :=
  List.foldl_append

theorem cellAfterEvent_of_write {event : E} {value : σ}
    (h : access event = .write value) (s : σ) :
    cellAfterEvent access s event = value := by
  rw [cellAfterEvent, h]

/-- The cell holds its first value or one that was written. -/
theorem cellAfter_eq_or_written (s : σ) (events : List E) :
    cellAfter access s events = s ∨
      ∃ event ∈ events, access event = .write (cellAfter access s events) := by
  induction events generalizing s with
  | nil => exact .inl rfl
  | cons event rest ih =>
      rw [cellAfter_cons]
      rcases ih (cellAfterEvent access s event) with hrest | hrest
      · rw [hrest, cellAfterEvent]
        split
        · next value hwrite => exact .inr ⟨event, by simp, hwrite⟩
        · exact .inl rfl
      · obtain ⟨writer, hmem, hwrite⟩ := hrest
        exact .inr ⟨writer, List.mem_cons_of_mem _ hmem, hwrite⟩

theorem CellAnswers.of_append {s : σ} {first second : List E}
    (h : CellAnswers access s (first ++ second)) :
    CellAnswers access (cellAfter access s first) second := by
  induction first generalizing s with
  | nil => exact h
  | cons event first ih => exact ih h.2

theorem CellAnswers.read_eq {s : σ} {before after : List E} {event : E}
    {value : σ} (h : CellAnswers access s (before ++ event :: after))
    (hread : access event = .read value) :
    value = cellAfter access s before :=
  h.of_append.1 value hread

/-- What is read after a write is what it has written, or was written since. -/
theorem CellAnswers.read_after_write {s : σ} {before between after : List E}
    {writer reader : E} {written value : σ}
    (h : CellAnswers access s (before ++ writer :: between ++ reader :: after))
    (hwrite : access writer = .write written)
    (hread : access reader = .read value) :
    value = written ∨ ∃ event ∈ between, access event = .write value := by
  have hvalue := h.read_eq hread
  rw [cellAfter_append, cellAfter_cons, cellAfterEvent_of_write hwrite]
    at hvalue
  rw [hvalue]
  exact cellAfter_eq_or_written written between

end Histories

end ServiceRouter.Foundation
