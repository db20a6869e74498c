import Mathlib.Data.List.Induction

/-!
# Updates of the first item with a key

An update names a key and a value and changes the first item with that key, if
there is one.  When setting a value keeps the key and forgets earlier values, a
list of updates gives each first item the last value for its key.
-/

namespace ServiceRouter.Foundation

variable {α β κ : Type} [DecidableEq κ]

def setFirst (key : α → κ) (set : β → α → α) (update : κ × β) :
    List α → List α
  | [] => []
  | a :: items =>
      if key a = update.1 then set update.2 a :: items
      else a :: setFirst key set update items

def setFirsts (key : α → κ) (set : β → α → α) (updates : List (κ × β))
    (items : List α) : List α :=
  updates.foldl (fun items update => setFirst key set update items) items

def lastFor (updates : List (κ × β)) (k : κ) : Option β :=
  (updates.reverse.find? fun update => update.1 = k).map Prod.snd

/-- The item at a position, updated unless an earlier item has its key. -/
def setAt (key : α → κ) (set : β → α → α) (value : κ → Option β)
    (items : List α) (position : Nat) (a : α) : α :=
  if key a ∈ (items.map key).take position then a
  else ((value (key a)).map fun b => set b a).getD a

theorem lastFor_concat (updates : List (κ × β)) (update : κ × β) (k : κ) :
    lastFor (updates ++ [update]) k =
      if update.1 = k then some update.2 else lastFor updates k := by
  rw [lastFor, List.reverse_append, List.reverse_singleton,
    List.singleton_append, List.find?_cons]
  by_cases h : update.1 = k
  · simp [h]
  · simp [h, lastFor]

section Lawful

variable {key : α → κ} {set : β → α → α}

theorem setFirst_eq_mapIdx (update : κ × β) (items : List α) :
    setFirst key set update items =
      items.mapIdx (setAt key set (fun k =>
        if update.1 = k then some update.2 else none) items) := by
  induction items with
  | nil => rfl
  | cons a items ih =>
      rw [setFirst, List.mapIdx_cons]
      by_cases ha : key a = update.1
      · have htail : items.mapIdx (fun i => setAt key set (fun k =>
            if update.1 = k then some update.2 else none) (a :: items)
              (i + 1)) = items := by
          refine List.mapIdx_eq_iff.mpr fun i => ?_
          cases items[i]? with
          | none => rfl
          | some b =>
              by_cases hb : update.1 = key b <;>
                simp [setAt, hb, ha]
        rw [if_pos ha, htail]
        simp [setAt, ha]
      · have hhead : setAt key set (fun k =>
            if update.1 = k then some update.2 else none) (a :: items) 0 a =
              a := by
          simp [setAt, Ne.symm ha]
        have htail : (fun i => setAt key set (fun k =>
            if update.1 = k then some update.2 else none) (a :: items)
              (i + 1)) = setAt key set (fun k =>
                if update.1 = k then some update.2 else none) items := by
          funext i b
          by_cases hb : update.1 = key b
          · have hne : key b ≠ key a := fun h => ha (h ▸ hb.symm)
            simp [setAt, hb, hne]
          · simp [setAt, hb]
        rw [if_neg ha, hhead, htail, ih]

theorem key_setAt (hkey : ∀ b a, key (set b a) = key a) (value : κ → Option β)
    (items : List α) (position : Nat) (a : α) :
    key (setAt key set value items position a) = key a := by
  unfold setAt
  split
  · rfl
  · cases value (key a) with
    | none => rfl
    | some b => exact hkey b a

theorem map_key_mapIdx_setAt (hkey : ∀ b a, key (set b a) = key a)
    (value : κ → Option β) (items : List α) :
    (items.mapIdx (setAt key set value items)).map key = items.map key := by
  refine List.ext_getElem? fun i => ?_
  rw [List.getElem?_map, List.getElem?_map, List.getElem?_mapIdx,
    Option.map_map]
  exact congrArg (Option.map · _) (funext (key_setAt hkey value items i))

/-- Each first item gets the last value for its key, on itself. -/
theorem setFirsts_eq_mapIdx (hkey : ∀ b a, key (set b a) = key a)
    (hset : ∀ b c a, set b (set c a) = set b a) (updates : List (κ × β))
    (items : List α) :
    setFirsts key set updates items =
      items.mapIdx (setAt key set (lastFor updates) items) := by
  induction updates using List.reverseRecOn with
  | nil =>
      refine (List.mapIdx_eq_iff.mpr fun i => ?_).symm
      have hsame : setAt key set (lastFor []) items i = id := by
        funext a
        simp [setAt, lastFor]
      rw [hsame, Option.map_id]
      rfl
  | append_singleton updates update ih =>
      have hlast : setFirsts key set (updates ++ [update]) items =
          setFirst key set update (setFirsts key set updates items) := by
        simp [setFirsts]
      rw [hlast, setFirst_eq_mapIdx, ih, List.mapIdx_mapIdx]
      refine List.mapIdx_eq_mapIdx_iff.mpr fun i hi => ?_
      rw [Function.comp_apply, setAt, key_setAt hkey,
        map_key_mapIdx_setAt hkey]
      unfold setAt
      rw [lastFor_concat]
      by_cases hearlier : key items[i] ∈ (items.map key).take i
      · simp [hearlier]
      · by_cases hupdate : update.1 = key items[i]
        · cases lastFor updates (key items[i]) <;>
            simp [hearlier, hupdate, hset]
        · simp [hearlier, hupdate]

theorem setFirsts_append (first second : List (κ × β)) (items : List α) :
    setFirsts key set (first ++ second) items =
      setFirsts key set second (setFirsts key set first items) :=
  List.foldl_append

theorem lastFor_append_self (updates : List (κ × β)) (k : κ) :
    lastFor (updates ++ updates) k = lastFor updates k := by
  rw [lastFor, List.reverse_append, List.find?_append, Option.or_self]
  rfl

/-- A second pass changes nothing. -/
theorem setFirsts_setFirsts (hkey : ∀ b a, key (set b a) = key a)
    (hset : ∀ b c a, set b (set c a) = set b a) (updates : List (κ × β))
    (items : List α) :
    setFirsts key set updates (setFirsts key set updates items) =
      setFirsts key set updates items := by
  have hlast : lastFor (updates ++ updates) = lastFor updates :=
    funext (lastFor_append_self updates)
  rw [← setFirsts_append, setFirsts_eq_mapIdx hkey hset, hlast,
    setFirsts_eq_mapIdx hkey hset]

theorem forall_mem_setFirst {p : α → Prop} (hset : ∀ b a, p (set b a))
    (update : κ × β) {items : List α} (h : ∀ a ∈ items, p a) :
    ∀ a ∈ setFirst key set update items, p a := by
  induction items with
  | nil => exact h
  | cons a items ih =>
      rw [List.forall_mem_cons] at h
      rw [setFirst]
      split
      · exact List.forall_mem_cons.mpr ⟨hset update.2 a, h.2⟩
      · exact List.forall_mem_cons.mpr ⟨h.1, ih h.2⟩

/-- What holds of all items, and of whatever has been set, still holds. -/
theorem forall_mem_setFirsts {p : α → Prop} (hset : ∀ b a, p (set b a))
    (updates : List (κ × β)) {items : List α} (h : ∀ a ∈ items, p a) :
    ∀ a ∈ setFirsts key set updates items, p a := by
  induction updates generalizing items with
  | nil => exact h
  | cons update updates ih => exact ih (forall_mem_setFirst hset update h)

end Lawful

end ServiceRouter.Foundation
