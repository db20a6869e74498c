import ServiceRouter.Foundation.Json
import Mathlib.Data.List.Nodup

/-!
# Positions in JSON values

A position is a sequence of keys that leads through nested objects.  What it
holds may be read and written, and nothing is held where a key is absent; so
writing nothing removes the key.  Objects with sorted keys are determined by
what their keys hold.
-/

namespace ServiceRouter.Foundation.Value

/-! ## Sorted objects -/

def SortedFields (fields : List (String × Value)) : Prop :=
  fields.Pairwise fun first second => first.1 < second.1

theorem lookup_eq_none_of_lt {k : String} {fields : List (String × Value)}
    (h : ∀ field ∈ fields, k < field.1) : fields.lookup k = none := by
  induction fields with
  | nil => rfl
  | cons field fields ih =>
      rw [List.forall_mem_cons] at h
      obtain ⟨l, w⟩ := field
      rw [lookup_cons_ite, if_neg (ne_of_lt h.1), ih h.2]

theorem mem_of_lookup {k : String} {v : Value} {fields : List (String × Value)}
    (h : fields.lookup k = some v) : (k, v) ∈ fields := by
  induction fields with
  | nil => cases h
  | cons field fields ih =>
      obtain ⟨l, w⟩ := field
      rw [lookup_cons_ite] at h
      split at h
      · subst k
        cases h
        exact List.mem_cons_self
      · exact List.mem_cons_of_mem _ (ih h)

/-- Sorted fields are determined by what the keys hold. -/
theorem SortedFields.ext {left right : List (String × Value)}
    (hleft : SortedFields left) (hright : SortedFields right)
    (h : ∀ k, left.lookup k = right.lookup k) : left = right := by
  induction left generalizing right with
  | nil =>
      cases right with
      | nil => rfl
      | cons field right =>
          obtain ⟨l, w⟩ := field
          have hl := h l
          rw [lookup_cons_ite, if_pos rfl] at hl
          cases hl
  | cons field left ih =>
      obtain ⟨k, v⟩ := field
      cases right with
      | nil =>
          have hk := h k
          rw [lookup_cons_ite, if_pos rfl] at hk
          cases hk
      | cons field right =>
          obtain ⟨l, w⟩ := field
          have hbelow := List.pairwise_cons.mp hleft
          have hbelow' := List.pairwise_cons.mp hright
          have hhead := h k
          have hhead' := h l
          rw [lookup_cons_ite, if_pos rfl, lookup_cons_ite] at hhead
          rw [lookup_cons_ite, lookup_cons_ite, if_pos rfl] at hhead'
          have hkl : k = l := by
            rcases lt_trichotomy k l with hlt | heq | hgt
            · rw [if_neg (ne_of_lt hlt), lookup_eq_none_of_lt
                fun field hmem => lt_trans hlt (hbelow'.1 field hmem)] at hhead
              cases hhead
            · exact heq
            · rw [if_neg (ne_of_lt hgt), lookup_eq_none_of_lt
                fun field hmem => lt_trans hgt (hbelow.1 field hmem)] at hhead'
              cases hhead'
          subst hkl
          rw [if_pos rfl] at hhead
          cases hhead
          congr 1
          refine ih hbelow.2 hbelow'.2 fun m => ?_
          have hm := h m
          rw [lookup_cons_ite, lookup_cons_ite] at hm
          by_cases hmk : m = k
          · rw [hmk, lookup_eq_none_of_lt hbelow.1,
              lookup_eq_none_of_lt hbelow'.1]
          · rwa [if_neg hmk, if_neg hmk] at hm

/-! ## One key -/

/-- Set what a key holds; a key that holds nothing is removed. -/
def setField (k : String) (new : Option Value)
    (fields : List (String × Value)) : List (String × Value) :=
  match new with
  | some v => insertField k v fields
  | none => fields.filter fun field => field.1 ≠ k

theorem lookup_setField (k l : String) (new : Option Value)
    (fields : List (String × Value)) :
    (setField k new fields).lookup l =
      if l = k then new else fields.lookup l := by
  cases new with
  | some v => exact lookup_insertField k l v fields
  | none =>
      rw [setField]
      induction fields with
      | nil => simp
      | cons field fields ih =>
          obtain ⟨m, w⟩ := field
          by_cases hm : m = k
          · rw [List.filter_cons_of_neg (by simpa using hm), ih,
              lookup_cons_ite]
            by_cases hl : l = k
            · simp [hl]
            · simp [hl, hm]
          · rw [List.filter_cons_of_pos (by simpa using hm), lookup_cons_ite,
              lookup_cons_ite, ih]
            by_cases hl : l = k
            · simp [hl, Ne.symm hm]
            · simp [hl]

theorem forall_mem_insertField {p : String × Value → Prop} {k : String}
    {v : Value} {fields : List (String × Value)} (hnew : p (k, v))
    (h : ∀ field ∈ fields, p field) :
    ∀ field ∈ insertField k v fields, p field := by
  induction fields with
  | nil => simpa [insertField] using hnew
  | cons field fields ih =>
      obtain ⟨l, w⟩ := field
      rw [List.forall_mem_cons] at h
      rw [insertField]
      split
      · exact List.forall_mem_cons.mpr ⟨hnew, h.2⟩
      · split
        · exact List.forall_mem_cons.mpr
            ⟨hnew, List.forall_mem_cons.mpr h⟩
        · exact List.forall_mem_cons.mpr ⟨h.1, ih h.2⟩

theorem SortedFields.insertField {k : String} {v : Value}
    {fields : List (String × Value)} (h : SortedFields fields) :
    SortedFields (insertField k v fields) := by
  induction fields with
  | nil => simp [SortedFields, Value.insertField]
  | cons field fields ih =>
      obtain ⟨l, w⟩ := field
      have hparts := List.pairwise_cons.mp h
      rw [Value.insertField]
      split
      · subst k
        exact List.pairwise_cons.mpr hparts
      · split
        · rename_i hlt
          refine List.pairwise_cons.mpr ⟨?_, h⟩
          exact List.forall_mem_cons.mpr
            ⟨hlt, fun field hmem => lt_trans hlt (hparts.1 field hmem)⟩
        · rename_i hne hnlt
          have hgt : l < k := lt_of_le_of_ne (not_lt.mp hnlt) (Ne.symm hne)
          exact List.pairwise_cons.mpr
            ⟨forall_mem_insertField hgt hparts.1, ih hparts.2⟩

theorem SortedFields.setField {fields : List (String × Value)}
    (h : SortedFields fields) (k : String) (new : Option Value) :
    SortedFields (setField k new fields) := by
  cases new with
  | some v => exact h.insertField
  | none => exact List.Pairwise.filter _ h

/-! ## Positions -/

/-- What a position holds below what is held already. -/
def readSlot : List String → Option Value → Option Value
  | [], slot => slot
  | k :: keys, some (.object fields) => readSlot keys (fields.lookup k)
  | _ :: _, _ => none

def writeSlot (new : Option Value) :
    List String → Option Value → Option Value
  | [], _ => new
  | k :: keys, some (.object fields) =>
      some (.object
        (setField k (writeSlot new keys (fields.lookup k)) fields))
  | _ :: _, slot => slot

/-- A position and what it is to hold. -/
structure Edit where
  keys : List String
  new : Option Value

/-- The edit moved below a key. -/
def Edit.under (k : String) (edit : Edit) : Edit where
  keys := k :: edit.keys
  new := edit.new

def writeAll (edits : List Edit) (slot : Option Value) : Option Value :=
  edits.foldl (fun slot edit => writeSlot edit.new edit.keys slot) slot

/-- Edits below one key are the edits of what it holds. -/
theorem writeAll_under (k : String) (edits : List Edit)
    {fields : List (String × Value)} (h : SortedFields fields) :
    writeAll (edits.map (Edit.under k)) (some (.object fields)) =
      some (.object
        (setField k (writeAll edits (fields.lookup k)) fields)) := by
  induction edits generalizing fields with
  | nil =>
      have hsame : setField k (fields.lookup k) fields = fields := by
        refine (h.setField _ _).ext h fun l => ?_
        rw [lookup_setField]
        split
        · rw [‹l = k›]
        · rfl
      simp only [writeAll, List.map_nil, List.foldl_nil, hsame]
  | cons edit edits ih =>
      have hrest := ih (h.setField k
        (writeSlot edit.new edit.keys (fields.lookup k)))
      rw [lookup_setField, if_pos rfl] at hrest
      have htwice (first second : Option Value) :
          setField k second (setField k first fields) =
            setField k second fields := by
        refine ((h.setField _ _).setField _ _).ext (h.setField _ _) fun l => ?_
        rw [lookup_setField, lookup_setField, lookup_setField]
        split <;> rfl
      rw [htwice] at hrest
      exact hrest

/-- Edits grouped by distinct keys change each of these and no other. -/
theorem writeAll_groups {ks : List String} (hks : ks.Nodup)
    (edits : String → List Edit) {fields : List (String × Value)}
    (h : SortedFields fields) :
    ∃ fields', SortedFields fields' ∧
      writeAll (ks.flatMap fun k => (edits k).map (Edit.under k))
        (some (.object fields)) = some (.object fields') ∧
      ∀ l, fields'.lookup l =
        if l ∈ ks then writeAll (edits l) (fields.lookup l)
        else fields.lookup l := by
  induction ks generalizing fields with
  | nil => exact ⟨fields, h, rfl, fun l => by simp⟩
  | cons k ks ih =>
      obtain ⟨hk, hks⟩ := List.nodup_cons.mp hks
      obtain ⟨fields', hsorted, hwrite, hlookup⟩ :=
        ih hks (h.setField k (writeAll (edits k) (fields.lookup k)))
      refine ⟨fields', hsorted, ?_, fun l => ?_⟩
      · rw [List.flatMap_cons, writeAll, List.foldl_append]
        have hfirst := writeAll_under k (edits k) h
        rw [writeAll] at hfirst
        rw [hfirst]
        exact hwrite
      · rw [hlookup, lookup_setField]
        by_cases hl : l = k
        · simp [hl, hk]
        · simp [hl]

/-! ## Values whose objects are sorted -/

inductive WellFormed : Value → Prop where
  | null : WellFormed .null
  | bool (b : Bool) : WellFormed (.bool b)
  | number (n : Number) : WellFormed (.number n)
  | string (s : String) : WellFormed (.string s)
  | array {items : List Value} (hitems : ∀ v ∈ items, WellFormed v) :
      WellFormed (.array items)
  | object {fields : List (String × Value)} (hsorted : SortedFields fields)
      (hfields : ∀ field ∈ fields, WellFormed field.2) :
      WellFormed (.object fields)

end ServiceRouter.Foundation.Value

namespace ServiceRouter.Foundation

/-- A value as the map type of its objects keeps it. -/
structure JsonValue where
  value : Value
  wellFormed : value.WellFormed

end ServiceRouter.Foundation
