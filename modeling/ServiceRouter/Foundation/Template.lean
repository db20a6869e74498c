import ServiceRouter.Foundation.Text

/-!
# Texts with holes

A template is a text some of whose places are holes with names.  Writing it
fills every hole at once.  A search-and-replace over the written text does the
same to one name, provided the mark of that name occurs nowhere but in its own
holes.
-/

namespace ServiceRouter.Foundation

variable {ν : Type*}

/-! ## Occurrences and replacing -/

/-- Some occurrence of the pattern starts in `first`, when `rest` follows. -/
def startsIn (pattern : List Char) : List Char → List Char → Bool
  | [], _ => false
  | c :: first, rest =>
      pattern.isPrefixOf (c :: (first ++ rest)) || startsIn pattern first rest

theorem startsIn_of_not_mem {c : Char} {pattern first rest : List Char}
    (h : c ∉ first) : startsIn (c :: pattern) first rest = false := by
  induction first with
  | nil => rfl
  | cons d first ih =>
      have hne : c ≠ d := fun hcd => h (hcd ▸ List.mem_cons_self)
      have hrest := ih fun hmem => h (List.mem_cons_of_mem d hmem)
      simp [startsIn, List.isPrefixOf, hne, hrest]

theorem replaceFrom_append {pattern replacement first rest : List Char}
    (h : startsIn pattern first rest = false) :
    replaceFrom pattern replacement 0 (first ++ rest) =
      first ++ replaceFrom pattern replacement 0 rest := by
  induction first with
  | nil => rfl
  | cons c first ih =>
      simp only [startsIn, Bool.or_eq_false_iff] at h
      simp [replaceFrom, h.1, ih h.2]

private theorem replaceFrom_skip (pattern replacement first rest : List Char) :
    replaceFrom pattern replacement first.length (first ++ rest) =
      replaceFrom pattern replacement 0 rest := by
  induction first with
  | nil => rfl
  | cons c first ih => simpa [replaceFrom] using ih

theorem replaceFrom_pattern {pattern : List Char} (hne : pattern ≠ [])
    (replacement rest : List Char) :
    replaceFrom pattern replacement 0 (pattern ++ rest) =
      replacement ++ replaceFrom pattern replacement 0 rest := by
  cases pattern with
  | nil => exact absurd rfl hne
  | cons c pattern =>
      have hstart : (c :: pattern).isPrefixOf (c :: (pattern ++ rest)) = true := by
        simp
      have hskip := replaceFrom_skip (c :: pattern) replacement pattern rest
      simp only [List.cons_append, replaceFrom, hstart, if_true,
        List.length_cons, Nat.add_sub_cancel, hskip]

theorem replaceFrom_self {pattern : List Char} (hne : pattern ≠ [])
    (text : List Char) : replaceFrom pattern pattern 0 text = text := by
  induction hlen : text.length using Nat.strong_induction_on
    generalizing text with
  | _ n ih =>
      have hpos : 0 < pattern.length := List.length_pos_iff.mpr hne
      by_cases hstart : pattern <+: text
      · obtain ⟨rest, rfl⟩ := hstart
        have hshort : rest.length < n := by
          rw [← hlen, List.length_append]
          omega
        rw [replaceFrom_pattern hne, ih _ hshort rest rfl]
      · cases text with
        | nil => rfl
        | cons c text =>
            have hshort : text.length < n := by
              rw [← hlen, List.length_cons]
              omega
            simp [replaceFrom, hstart, ih _ hshort text rfl]

/-! ## Templates -/

inductive Piece (ν : Type*) where
  | char (c : Char)
  | hole (name : ν)

namespace Piece

def write (fill : ν → List Char) : List (Piece ν) → List Char
  | [] => []
  | char c :: pieces => c :: write fill pieces
  | hole name :: pieces => fill name ++ write fill pieces

def holes : List (Piece ν) → List ν
  | [] => []
  | char _ :: pieces => holes pieces
  | hole name :: pieces => name :: holes pieces

@[simp] theorem write_chars (fill : ν → List Char) (text : List Char)
    (pieces : List (Piece ν)) :
    write fill (text.map char ++ pieces) = text ++ write fill pieces := by
  induction text with
  | nil => rfl
  | cons c text ih => simp [write, ih]

theorem write_congr {fill fill' : ν → List Char} {pieces : List (Piece ν)}
    (h : ∀ name ∈ holes pieces, fill name = fill' name) :
    write fill pieces = write fill' pieces := by
  induction pieces with
  | nil => rfl
  | cons piece pieces ih =>
      cases piece with
      | char c => rw [write, write, ih h]
      | hole name =>
          simp only [holes, List.forall_mem_cons] at h
          rw [write, write, h.1, ih h.2]

variable [DecidableEq ν]

/-- In the written text, the mark of `name` occurs only in holes of that name
that are written as the mark. -/
def onlyInHoles (mark fill : ν → List Char) (name : ν) :
    List (Piece ν) → Bool
  | [] => true
  | char c :: pieces =>
      !(mark name).isPrefixOf (c :: write fill pieces) &&
        onlyInHoles mark fill name pieces
  | hole other :: pieces =>
      (other = name && fill name = mark name ||
          !startsIn (mark name) (fill other) (write fill pieces)) &&
        onlyInHoles mark fill name pieces

/-- Replacing the mark of a name fills the holes of that name. -/
theorem replaceFrom_write {mark fill : ν → List Char} {name : ν}
    {value : List Char} {pieces : List (Piece ν)} (hne : mark name ≠ [])
    (hfill : fill name = mark name ∨ fill name = value)
    (honly : onlyInHoles mark fill name pieces = true) :
    replaceFrom (mark name) value 0 (write fill pieces) =
      write (Function.update fill name value) pieces := by
  induction pieces with
  | nil => rfl
  | cons piece pieces ih =>
      cases piece with
      | char c =>
          simp only [onlyInHoles, Bool.and_eq_true, Bool.not_eq_true'] at honly
          simp only [write, replaceFrom, honly.1, ih honly.2]
          rfl
      | hole other =>
          simp only [onlyInHoles, Bool.and_eq_true, Bool.or_eq_true,
            decide_eq_true_eq, Bool.not_eq_true'] at honly
          have hrest := ih honly.2
          simp only [write]
          by_cases hmark : other = name ∧ fill name = mark name
          · rw [hmark.1, hmark.2, replaceFrom_pattern hne, hrest,
              Function.update_self]
          · have hstart := honly.1.resolve_left hmark
            rw [replaceFrom_append hstart, hrest]
            by_cases hname : other = name
            · have hvalue := hfill.resolve_left fun h => hmark ⟨hname, h⟩
              rw [hname, hvalue, Function.update_self]
            · rw [Function.update_of_ne hname]

end Piece

end ServiceRouter.Foundation
