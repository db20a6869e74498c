import Mathlib.Data.List.Basic

/-!
# Multimaps

A multimap is the list of its pairs.  The values of one key keep the order in
which they were added; the relative order of pairs with different keys carries
no meaning.
-/

namespace ServiceRouter.Foundation

@[ext]
structure MultiMap (κ ν : Type) where
  pairs : List (κ × ν)
  deriving DecidableEq, Repr

namespace MultiMap

variable {κ ν : Type} [DecidableEq κ]

def empty : MultiMap κ ν := ⟨[]⟩

def getAll (map : MultiMap κ ν) (k : κ) : List ν :=
  (map.pairs.filter fun pair => pair.1 = k).map Prod.snd

def get? (map : MultiMap κ ν) (k : κ) : Option ν := (map.getAll k).head?

def insert (map : MultiMap κ ν) (k : κ) (v : ν) : MultiMap κ ν :=
  ⟨map.pairs.filter (fun pair => pair.1 ≠ k) ++ [(k, v)]⟩

def append (map : MultiMap κ ν) (k : κ) (v : ν) : MultiMap κ ν :=
  ⟨map.pairs ++ [(k, v)]⟩

@[simp] theorem getAll_empty (k : κ) :
    (empty : MultiMap κ ν).getAll k = [] := rfl

@[simp] theorem getAll_cons (k k' : κ) (v : ν) (pairs : List (κ × ν)) :
    (⟨(k', v) :: pairs⟩ : MultiMap κ ν).getAll k =
      if k' = k then v :: (⟨pairs⟩ : MultiMap κ ν).getAll k
      else (⟨pairs⟩ : MultiMap κ ν).getAll k := by
  by_cases h : k' = k <;> simp [getAll, h]

@[simp] theorem getAll_insert_self (map : MultiMap κ ν) (k : κ) (v : ν) :
    (map.insert k v).getAll k = [v] := by
  simp [getAll, insert, List.filter_append, List.filter_filter]

@[simp] theorem getAll_insert_ne (map : MultiMap κ ν) {k k' : κ} (v : ν)
    (h : k' ≠ k) : (map.insert k v).getAll k' = map.getAll k' := by
  have hkeep (pair : κ × ν) :
      (decide (pair.1 = k') && decide (pair.1 ≠ k)) = decide (pair.1 = k') := by
    by_cases hk : pair.1 = k'
    · simp [hk, h]
    · simp [hk]
  simp only [getAll, insert, List.filter_append, List.filter_filter, hkeep]
  simp [Ne.symm h]

theorem getAll_insert (map : MultiMap κ ν) (k k' : κ) (v : ν) :
    (map.insert k v).getAll k' = if k' = k then [v] else map.getAll k' := by
  by_cases h : k' = k
  · subst h
    simp
  · simp [h]

/-! ## Inserting many pairs -/

def insertAll (map : MultiMap κ ν) (pairs : List (κ × ν)) : MultiMap κ ν :=
  pairs.foldl (fun map pair => map.insert pair.1 pair.2) map

/-- After inserting many pairs a key has the last value inserted for it, or
its old values when none was. -/
theorem getAll_insertAll (map : MultiMap κ ν) (pairs : List (κ × ν)) (k : κ) :
    (map.insertAll pairs).getAll k =
      match ((⟨pairs⟩ : MultiMap κ ν).getAll k).getLast? with
      | some last => [last]
      | none => map.getAll k := by
  induction pairs generalizing map with
  | nil => rfl
  | cons pair pairs ih =>
      obtain ⟨k', v⟩ := pair
      rw [insertAll, List.foldl_cons, ← insertAll, ih, getAll_insert,
        getAll_cons]
      by_cases hk : k' = k
      · subst hk
        cases hrest : ((⟨pairs⟩ : MultiMap κ ν).getAll k').getLast? <;>
          simp [List.getLast?_cons, hrest]
      · simp [hk, Ne.symm hk]

theorem insertAll_append (map : MultiMap κ ν) (first second : List (κ × ν)) :
    map.insertAll (first ++ second) =
      (map.insertAll first).insertAll second :=
  List.foldl_append

/-- Inserting under keys that are filtered out changes nothing. -/
theorem filter_insertAll {p : κ → Bool} {pairs : List (κ × ν)}
    (h : ∀ pair ∈ pairs, p pair.1 = false) (map : MultiMap κ ν) :
    (map.insertAll pairs).pairs.filter (fun pair => p pair.1) =
      map.pairs.filter fun pair => p pair.1 := by
  induction pairs generalizing map with
  | nil => rfl
  | cons pair pairs ih =>
      obtain ⟨k, v⟩ := pair
      have hk : p k = false := h _ List.mem_cons_self
      have hkeep : ((map.insert k v).pairs.filter fun pair => p pair.1) =
          map.pairs.filter fun pair => p pair.1 := by
        rw [insert, List.filter_append, List.filter_filter]
        simp only [List.filter_cons, hk, Bool.false_eq_true, if_false,
          List.filter_nil, List.append_nil]
        apply List.filter_congr
        intro pair _
        by_cases hpair : pair.1 = k
        · simp [hpair, hk]
        · simp [hpair]
      rw [insertAll, List.foldl_cons, ← insertAll, ← hkeep]
      exact ih (fun pair hpair => h pair (List.mem_cons_of_mem _ hpair)) _

theorem mem_getAll {map : MultiMap κ ν} {k : κ} {v : ν} :
    v ∈ map.getAll k ↔ (k, v) ∈ map.pairs := by
  simp [getAll]

end MultiMap

end ServiceRouter.Foundation
