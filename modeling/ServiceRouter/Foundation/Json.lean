import Mathlib.Data.String.Basic
import Mathlib.Data.List.Basic
import Mathlib.Data.Rat.Init

/-!
# JSON values

Objects are lists of fields in increasing key order without repeated keys,
kept so by `insertField`; two values are then equal exactly when they agree
structurally.  A finite float stands for the rational number it denotes, which
is what comparing two of them compares.
-/

namespace ServiceRouter.Foundation

inductive Number where
  | posInt (n : Nat)
  | negInt (n : Int)
  | float (q : Rat)
  deriving DecidableEq

inductive Value where
  | null
  | bool (b : Bool)
  | number (n : Number)
  | string (s : String)
  | array (items : List Value)
  | object (fields : List (String × Value))

namespace Value

/-! ## Decidable equality -/

mutual

def decEq : (a b : Value) → Decidable (a = b)
  | .null, .null => isTrue rfl
  | .bool a, .bool b => decidable_of_iff (a = b) (by simp)
  | .number a, .number b => decidable_of_iff (a = b) (by simp)
  | .string a, .string b => decidable_of_iff (a = b) (by simp)
  | .array a, .array b =>
      @decidable_of_iff _ (a = b) (by simp) (decEqItems a b)
  | .object a, .object b =>
      @decidable_of_iff _ (a = b) (by simp) (decEqFields a b)
  | .null, .bool _ | .null, .number _ | .null, .string _ | .null, .array _
  | .null, .object _ | .bool _, .null | .bool _, .number _
  | .bool _, .string _ | .bool _, .array _ | .bool _, .object _
  | .number _, .null | .number _, .bool _ | .number _, .string _
  | .number _, .array _ | .number _, .object _ | .string _, .null
  | .string _, .bool _ | .string _, .number _ | .string _, .array _
  | .string _, .object _ | .array _, .null | .array _, .bool _
  | .array _, .number _ | .array _, .string _ | .array _, .object _
  | .object _, .null | .object _, .bool _ | .object _, .number _
  | .object _, .string _ | .object _, .array _ => isFalse (by simp)

def decEqItems : (a b : List Value) → Decidable (a = b)
  | [], [] => isTrue rfl
  | [], _ :: _ | _ :: _, [] => isFalse (by simp)
  | a :: as, b :: bs =>
      @decidable_of_iff _ (a = b ∧ as = bs) (by simp)
        (@instDecidableAnd _ _ (decEq a b) (decEqItems as bs))

def decEqFields : (a b : List (String × Value)) → Decidable (a = b)
  | [], [] => isTrue rfl
  | [], _ :: _ | _ :: _, [] => isFalse (by simp)
  | (k, a) :: as, (l, b) :: bs =>
      @decidable_of_iff _ ((k = l ∧ a = b) ∧ as = bs) (by simp)
        (@instDecidableAnd _ _
          (@instDecidableAnd _ _ inferInstance (decEq a b))
          (decEqFields as bs))

end

instance : DecidableEq Value := decEq

/-! ## Objects -/

/-- Set a field, keeping the fields in increasing key order. -/
def insertField (k : String) (v : Value) :
    List (String × Value) → List (String × Value)
  | [] => [(k, v)]
  | (l, w) :: fields =>
      if k = l then (k, v) :: fields
      else if k < l then (k, v) :: (l, w) :: fields
      else (l, w) :: insertField k v fields

/-- An object from its fields; a later field replaces an earlier one. -/
def mkObject (fields : List (String × Value)) : Value :=
  .object (fields.foldl (fun object field =>
    insertField field.1 field.2 object) [])

def getField (k : String) : Value → Option Value
  | .object fields => fields.lookup k
  | _ => none

theorem lookup_cons_ite (k l : String) (v : Value)
    (fields : List (String × Value)) :
    ((k, v) :: fields).lookup l =
      if l = k then some v else fields.lookup l := by
  by_cases h : l = k
  · subst h
    simp
  · rw [List.lookup_cons, beq_eq_false_iff_ne.mpr h, if_neg h]

theorem lookup_insertField (k l : String) (v : Value)
    (fields : List (String × Value)) :
    (insertField k v fields).lookup l =
      if l = k then some v else fields.lookup l := by
  induction fields with
  | nil => exact lookup_cons_ite k l v []
  | cons field fields ih =>
      obtain ⟨m, w⟩ := field
      rw [insertField]
      by_cases hkm : k = m
      · subst hkm
        simp only [if_true, lookup_cons_ite]
        split <;> rfl
      · rw [if_neg hkm]
        by_cases hlt : k < m
        · rw [if_pos hlt, lookup_cons_ite]
        · rw [if_neg hlt, lookup_cons_ite, lookup_cons_ite, ih]
          by_cases hl : l = k
          · simp [hl, hkm]
          · simp [hl]

private theorem lookup_foldl_insertField (l : String)
    (fields object : List (String × Value)) :
    (fields.foldl (fun object field => insertField field.1 field.2 object)
        object).lookup l =
      match fields.reverse.lookup l with
      | some v => some v
      | none => object.lookup l := by
  induction fields generalizing object with
  | nil => rfl
  | cons field fields ih =>
      obtain ⟨k, v⟩ := field
      rw [List.foldl_cons, ih, lookup_insertField, List.reverse_cons,
        List.lookup_append, lookup_cons_ite]
      cases fields.reverse.lookup l with
      | some w => rfl
      | none => by_cases h : l = k <;> simp [h]

theorem getField_mkObject (l : String) (fields : List (String × Value)) :
    (mkObject fields).getField l = fields.reverse.lookup l := by
  rw [mkObject, getField, lookup_foldl_insertField]
  cases fields.reverse.lookup l <;> rfl

end Value

end ServiceRouter.Foundation
