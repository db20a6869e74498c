import Mathlib.Data.List.TakeWhile
import Mathlib.Data.String.Basic

/-!
# Text operations over Unicode scalar values

Prefix tests, trimming and letter case for strings.  Letter case beyond ASCII
depends on the Unicode tables of a toolchain, so the tables are a parameter of
which only the ASCII part is fixed; every result below holds for any tables.
-/

namespace ServiceRouter.Foundation

/-! ## Prefixes and trimming -/

def startsWith (text pre : String) : Bool :=
  pre.toList.isPrefixOf text.toList

theorem startsWith_iff {text pre : String} :
    startsWith text pre = true ↔ pre.toList <+: text.toList := by
  simp [startsWith]

theorem startsWith_trans {first second third : String}
    (hfirst : startsWith first second = true)
    (hsecond : startsWith second third = true) :
    startsWith first third = true :=
  startsWith_iff.mpr
    ((startsWith_iff.mp hsecond).trans (startsWith_iff.mp hfirst))

def stripPrefix? (text pre : String) : Option String :=
  if startsWith text pre
  then some (String.ofList (text.toList.drop pre.toList.length))
  else none

def trimEndMatches (text : String) (c : Char) : String :=
  String.ofList (text.toList.reverse.dropWhile (· == c)).reverse

/-- Trimming what is not made of the trimmed character alone keeps all that
stands before it. -/
theorem trimEndMatches_append (lead : List Char) {rest : List Char} {c : Char}
    (h : ∃ d ∈ rest, d ≠ c) :
    ∃ kept trimmed, rest = kept ++ trimmed ∧ (∀ d ∈ trimmed, d = c) ∧
      trimEndMatches (String.ofList (lead ++ rest)) c =
        String.ofList (lead ++ kept) := by
  have hkept : rest.reverse.dropWhile (· == c) ≠ [] := by
    rw [ne_eq, List.dropWhile_eq_nil_iff]
    intro hall
    obtain ⟨d, hd, hne⟩ := h
    exact hne (by simpa using hall d (List.mem_reverse.mpr hd))
  refine ⟨(rest.reverse.dropWhile (· == c)).reverse,
    (rest.reverse.takeWhile (· == c)).reverse, ?_, ?_, ?_⟩
  · rw [← List.reverse_append, List.takeWhile_append_dropWhile,
      List.reverse_reverse]
  · intro d hd
    simpa using List.mem_takeWhile_imp (List.mem_reverse.mp hd)
  · rw [trimEndMatches, String.toList_ofList, List.reverse_append,
      List.dropWhile_append, if_neg (by simpa using hkept),
      List.reverse_append, List.reverse_reverse]

/-- The characters with the Unicode property `White_Space`. -/
def isWhitespace (c : Char) : Bool :=
  let code := c.toNat
  (9 ≤ code && code ≤ 13) || code = 0x20 || code = 0x85 || code = 0xA0 ||
    code = 0x1680 || (0x2000 ≤ code && code ≤ 0x200A) || code = 0x2028 ||
    code = 0x2029 || code = 0x202F || code = 0x205F || code = 0x3000

def trim (text : String) : String :=
  let started := text.toList.dropWhile isWhitespace
  String.ofList (started.reverse.dropWhile isWhitespace).reverse

/-- What stands before and after the first occurrence of a character. -/
def splitOnce (text : String) (c : Char) : Option (String × String) :=
  if c ∈ text.toList
  then
    let key := text.toList.takeWhile (· ≠ c)
    let rest := text.toList.dropWhile (· ≠ c)
    some (String.ofList key, String.ofList (rest.drop 1))
  else none

/-- What stands before and after the last occurrence of a character. -/
def rsplitOnce (text : String) (c : Char) : Option (String × String) :=
  (splitOnce (String.ofList text.toList.reverse) c).map fun parts =>
    (String.ofList parts.2.toList.reverse,
      String.ofList parts.1.toList.reverse)

def containsText (text pattern : String) : Bool :=
  text.toList.tails.any pattern.toList.isPrefixOf

/-- Replace the occurrences of a nonempty pattern from left to right; `skip`
characters still belong to an occurrence already replaced. -/
def replaceFrom (pattern replacement : List Char) :
    Nat → List Char → List Char
  | _, [] => []
  | skip + 1, _ :: rest => replaceFrom pattern replacement skip rest
  | 0, c :: rest =>
      if pattern.isPrefixOf (c :: rest)
      then replacement ++
        replaceFrom pattern replacement (pattern.length - 1) rest
      else c :: replaceFrom pattern replacement 0 rest

def replace (text pattern replacement : String) : String :=
  String.ofList (replaceFrom pattern.toList replacement.toList 0 text.toList)

/-! ## Numbers -/

def digitsValue (digits : List Char) : Nat :=
  digits.foldl (fun n c => 10 * n + (c.toNat - 48)) 0

/-- A 64-bit unsigned number in decimal, with an optional plus sign. -/
def parseUsize (text : String) : Option Nat :=
  let digits :=
    match text.toList with
    | '+' :: rest => rest
    | chars => chars
  if !digits.isEmpty && digits.all Char.isDigit && digitsValue digits < 2 ^ 64
  then some (digitsValue digits)
  else none

def parseU16 (text : String) : Option Nat :=
  (parseUsize text).filter (· < 2 ^ 16)

/-- Why a text is no 16-bit number: digits are read until one is missing or
the number is too large. -/
def parseU16Error (text : String) : String :=
  let digits :=
    match text.toList with
    | '+' :: rest => rest
    | chars => chars
  if text.toList.isEmpty then "cannot parse integer from empty string"
  else if digitsValue (digits.takeWhile Char.isDigit) < 2 ^ 16
  then "invalid digit found in string"
  else "number too large to fit in target type"

theorem isDigit_of_mem_toString {n : Nat} {c : Char}
    (h : c ∈ (toString n).toList) : c.isDigit = true := by
  rw [Nat.toString_eq_ofList_toDigits, String.toList_ofList] at h
  exact Nat.isDigit_of_mem_toDigits (by omega) (by omega) h

theorem digitsValue_toString (n : Nat) :
    digitsValue (toString n).toList = n := by
  rw [Nat.toString_eq_ofList_toDigits, String.toList_ofList]
  exact (Nat.ofDigitChars_eq_foldl).symm.trans Nat.ofDigitChars_ten_toDigits

theorem toString_nat_injective {m n : Nat} (h : toString m = toString n) :
    m = n := by
  rw [← digitsValue_toString m, h, digitsValue_toString]

/-- Between the separators a text has nothing but its pieces. -/
theorem forall_mem_of_splitOn {p : Char → Prop} {text : List Char} {sep : Char}
    (h : ∀ piece ∈ text.splitOn sep, ∀ c ∈ piece, p c) :
    ∀ c ∈ text, c = sep ∨ p c := by
  have hjoined (pieces : List (List Char))
      (h : ∀ piece ∈ pieces, ∀ c ∈ piece, p c) :
      ∀ c ∈ [sep].intercalate pieces, c = sep ∨ p c := by
    induction pieces with
    | nil => simp [List.intercalate_nil]
    | cons piece pieces ih =>
        rw [List.forall_mem_cons] at h
        intro c hc
        by_cases hlast : pieces = []
        · rw [hlast, List.intercalate_singleton] at hc
          exact .inr (h.1 c hc)
        · rw [List.intercalate_cons_of_ne_nil hlast] at hc
          simp only [List.mem_append, List.mem_singleton] at hc
          rcases hc with (hpiece | hsep) | hrest
          · exact .inr (h.1 c hpiece)
          · exact .inl hsep
          · exact ih h.2 c hrest
  intro c hc
  have hwhole : [sep].intercalate (text.splitOn sep) = text :=
    List.intercalate_splitOn sep
  apply hjoined _ h c
  rwa [hwhole]

/-- The text after the last separator is determined. -/
theorem append_separator_inj {c : Char} {front front' back back' : List Char}
    (hback : c ∉ back) (hback' : c ∉ back')
    (h : front ++ c :: back = front' ++ c :: back') :
    front = front' ∧ back = back' := by
  cases List.append_eq_append_iff.mp h with
  | inl hlong =>
      obtain ⟨between, rfl, hrest⟩ := hlong
      cases between with
      | nil => simpa using hrest
      | cons d between => simp_all
  | inr hlong =>
      obtain ⟨between, rfl, hrest⟩ := hlong
      cases between with
      | nil => simpa [eq_comm] using hrest
      | cons d between => simp_all

/-! ## Letter case -/

def eqIgnoreAsciiCase (left right : String) : Bool :=
  left.toList.map Char.toLower == right.toList.map Char.toLower

theorem eqIgnoreAsciiCase_iff {left right : String} :
    eqIgnoreAsciiCase left right = true ↔
      left.toList.map Char.toLower = right.toList.map Char.toLower := by
  simp [eqIgnoreAsciiCase]

def isAsciiChar (c : Char) : Bool := c.toNat < 128

theorem isUpper_iff_toNat {c : Char} :
    c.isUpper = true ↔ 65 ≤ c.toNat ∧ c.toNat ≤ 90 := by
  show decide (c.val ≥ 'A'.val ∧ c.val ≤ 'Z'.val) = true ↔ _
  rw [decide_eq_true_iff]
  exact and_congr UInt32.le_iff_toNat_le UInt32.le_iff_toNat_le

theorem isLower_iff_toNat {c : Char} :
    c.isLower = true ↔ 97 ≤ c.toNat ∧ c.toNat ≤ 122 := by
  show (decide (c.val ≥ 'a'.val) && decide (c.val ≤ 'z'.val)) = true ↔ _
  rw [Bool.and_eq_true, decide_eq_true_iff, decide_eq_true_iff]
  exact and_congr UInt32.le_iff_toNat_le UInt32.le_iff_toNat_le

theorem isDigit_iff_toNat {c : Char} :
    c.isDigit = true ↔ 48 ≤ c.toNat ∧ c.toNat ≤ 57 :=
  Char.isDigit_iff_toNat

theorem isAsciiChar_of_isUpper {c : Char} (h : c.isUpper) :
    isAsciiChar c = true := by
  rw [isUpper_iff_toNat] at h
  simp only [isAsciiChar, decide_eq_true_eq]
  omega

theorem isAsciiChar_of_isLower {c : Char} (h : c.isLower) :
    isAsciiChar c = true := by
  rw [isLower_iff_toNat] at h
  simp only [isAsciiChar, decide_eq_true_eq]
  omega

-- Batteries has such lemmas, but only Mathlib as a whole imports them.
theorem toNat_toLower (c : Char) :
    c.toLower.toNat = if c.isUpper then c.toNat + 32 else c.toNat := by
  by_cases h : c.isUpper = true
  · have hlower : c.toLower.val = c.val + ('a'.val - 'A'.val) :=
      congrArg Char.val (dif_pos (of_decide_eq_true h))
    have hsmall : c.val.toNat ≤ 90 := (isUpper_iff_toNat.mp h).2
    have hshift : ('a'.val - 'A'.val).toNat = 32 := rfl
    rw [if_pos h, Char.toNat, Char.toNat, hlower, UInt32.toNat_add, hshift]
    omega
  · have hlower : c.toLower = c :=
      dif_neg (of_decide_eq_false (Bool.eq_false_iff.mpr h))
    rw [if_neg h, hlower]

theorem toLower_of_not_isUpper {c : Char} (h : ¬ c.isUpper = true) :
    c.toLower = c := by
  apply Char.toNat_inj.mp
  rw [toNat_toLower, if_neg h]

@[simp] theorem toLower_toLower (c : Char) :
    c.toLower.toLower = c.toLower := by
  apply toLower_of_not_isUpper
  rw [isUpper_iff_toNat, toNat_toLower]
  by_cases h : c.isUpper = true
  · rw [if_pos h]
    rw [isUpper_iff_toNat] at h
    omega
  · rw [if_neg h, ← isUpper_iff_toNat]
    exact h

theorem toNat_toUpper (c : Char) :
    c.toUpper.toNat = if c.isLower then c.toNat - 32 else c.toNat := by
  have hiff : c.isLower = true ↔ 'a'.val ≤ c.val ∧ c.val ≤ 'z'.val := by
    rw [isLower_iff_toNat, UInt32.le_iff_toNat_le, UInt32.le_iff_toNat_le]
    exact Iff.rfl
  by_cases h : c.isLower = true
  · have hupper : c.toUpper.val = c.val + ('A'.val - 'a'.val) := by
      delta Char.toUpper
      rw [dif_pos (hiff.mp h)]
    have hlarge : 97 ≤ c.val.toNat := (isLower_iff_toNat.mp h).1
    have hsmall : c.val.toNat ≤ 122 := (isLower_iff_toNat.mp h).2
    have hshift : ('A'.val - 'a'.val).toNat = 4294967264 := rfl
    rw [if_pos h, Char.toNat, Char.toNat, hupper, UInt32.toNat_add, hshift]
    omega
  · have hupper : c.toUpper = c := by
      delta Char.toUpper
      rw [dif_neg (mt hiff.mpr h)]
    rw [if_neg h, hupper]

@[simp] theorem toUpper_toLower (c : Char) : c.toLower.toUpper = c.toUpper := by
  apply Char.toNat_inj.mp
  have hlower := toNat_toLower c
  by_cases hup : c.isUpper = true
  · have hbounds := isUpper_iff_toNat.mp hup
    rw [if_pos hup] at hlower
    have hisLower : c.toLower.isLower = true :=
      isLower_iff_toNat.mpr (by omega)
    have hnotLower : ¬ c.isLower = true := by
      rw [isLower_iff_toNat]
      omega
    rw [toNat_toUpper, toNat_toUpper, if_pos hisLower, if_neg hnotLower]
    omega
  · rw [toLower_of_not_isUpper hup]

@[simp] theorem toLower_toUpper (c : Char) : c.toUpper.toLower = c.toLower := by
  apply Char.toNat_inj.mp
  have hupper := toNat_toUpper c
  by_cases hlow : c.isLower = true
  · have hbounds := isLower_iff_toNat.mp hlow
    rw [if_pos hlow] at hupper
    have hisUpper : c.toUpper.isUpper = true :=
      isUpper_iff_toNat.mpr (by omega)
    have hnotUpper : ¬ c.isUpper = true := by
      rw [isUpper_iff_toNat]
      omega
    rw [toNat_toLower, toNat_toLower, if_pos hisUpper, if_neg hnotUpper]
    omega
  · rw [if_neg hlow] at hupper
    rw [Char.toNat_inj.mp hupper]

theorem isAsciiChar_toLower (c : Char) :
    isAsciiChar c.toLower = isAsciiChar c := by
  simp only [isAsciiChar, decide_eq_decide, toNat_toLower]
  split
  · next h =>
      have hbounds := isUpper_iff_toNat.mp h
      omega
  · rfl

/--
Unicode case tables.  `finalSigma` decides, from the text before (reversed)
and after a capital sigma, whether lowercasing yields its word-final form.
-/
structure CaseMapping where
  upper : Char → List Char
  lower : Char → List Char
  finalSigma : List Char → List Char → Bool
  upper_ascii : ∀ c, isAsciiChar c = true → upper c = [c.toUpper]
  lower_ascii : ∀ c, isAsciiChar c = true → lower c = [c.toLower]

namespace CaseMapping

def toUppercase (tables : CaseMapping) (text : String) : String :=
  String.ofList (text.toList.flatMap tables.upper)

/-- Lowercases `rest`, with `before` the already consumed text, reversed. -/
def lowerFrom (tables : CaseMapping) : List Char → List Char → List Char
  | _, [] => []
  | before, c :: rest =>
      let low :=
        if c = 'Σ'
        then [if tables.finalSigma before rest then 'ς' else 'σ']
        else tables.lower c
      low ++ tables.lowerFrom (c :: before) rest

def toLowercase (tables : CaseMapping) (text : String) : String :=
  String.ofList (tables.lowerFrom [] text.toList)

def ascii : CaseMapping where
  upper c := [c.toUpper]
  lower c := [c.toLower]
  finalSigma _ _ := false
  upper_ascii _ _ := rfl
  lower_ascii _ _ := rfl

theorem upper_eq_of_toLower_eq (tables : CaseMapping) {a b : Char}
    (h : a.toLower = b.toLower) : tables.upper a = tables.upper b := by
  have hascii : isAsciiChar a = isAsciiChar b := by
    rw [← isAsciiChar_toLower a, h, isAsciiChar_toLower]
  cases ha : isAsciiChar a with
  | true =>
      have hupper : a.toUpper = b.toUpper := by
        rw [← toUpper_toLower a, h, toUpper_toLower]
      rw [tables.upper_ascii a ha, tables.upper_ascii b (hascii ▸ ha), hupper]
  | false =>
      have hne (c : Char) (hc : isAsciiChar c = false) : c.toLower = c :=
        toLower_of_not_isUpper fun hup => by
          simp [isAsciiChar_of_isUpper hup] at hc
      rw [hne a ha, hne b (hascii ▸ ha)] at h
      rw [h]

theorem toUppercase_eq_of_eqIgnoreAsciiCase (tables : CaseMapping)
    {left right : String} (h : eqIgnoreAsciiCase left right = true) :
    tables.toUppercase left = tables.toUppercase right := by
  have hlower := eqIgnoreAsciiCase_iff.mp h
  have hupper (l r : List Char) (h : l.map Char.toLower = r.map Char.toLower) :
      l.flatMap tables.upper = r.flatMap tables.upper := by
    induction l generalizing r with
    | nil => simp_all
    | cons a l ih =>
        cases r with
        | nil => simp at h
        | cons b r =>
            simp only [List.map_cons, List.cons.injEq] at h
            rw [List.flatMap_cons, List.flatMap_cons,
              tables.upper_eq_of_toLower_eq h.1, ih r h.2]
  rw [toUppercase, toUppercase, hupper _ _ hlower]

theorem toUppercase_ascii (tables : CaseMapping) {text : String}
    (h : ∀ c ∈ text.toList, isAsciiChar c = true) :
    tables.toUppercase text = String.ofList (text.toList.map Char.toUpper) := by
  have hupper (chars : List Char) (h : ∀ c ∈ chars, isAsciiChar c = true) :
      chars.flatMap tables.upper = chars.map Char.toUpper := by
    induction chars with
    | nil => rfl
    | cons c chars ih =>
        rw [List.forall_mem_cons] at h
        rw [List.flatMap_cons, tables.upper_ascii c h.1, ih h.2]
        rfl
  rw [toUppercase, hupper _ h]

theorem lowerFrom_ascii (tables : CaseMapping) (before text : List Char)
    (h : ∀ c ∈ text, isAsciiChar c = true) :
    tables.lowerFrom before text = text.map Char.toLower := by
  induction text generalizing before with
  | nil => rfl
  | cons c text ih =>
      have hc : isAsciiChar c = true := h c List.mem_cons_self
      have hsigma : c ≠ 'Σ' := by
        rintro rfl
        exact absurd hc (by decide)
      simp only [lowerFrom, if_neg hsigma, tables.lower_ascii c hc,
        List.map_cons, List.singleton_append]
      rw [ih (c :: before) fun d hd => h d (List.mem_cons_of_mem _ hd)]

theorem toLowercase_ascii (tables : CaseMapping) {text : String}
    (h : ∀ c ∈ text.toList, isAsciiChar c = true) :
    tables.toLowercase text = String.ofList (text.toList.map Char.toLower) := by
  rw [toLowercase, lowerFrom_ascii tables [] text.toList h]

end CaseMapping

end ServiceRouter.Foundation
