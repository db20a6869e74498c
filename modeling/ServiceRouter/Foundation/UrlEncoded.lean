import ServiceRouter.Foundation.Text

/-!
# Pairs in a URL query

`application/x-www-form-urlencoded`: letters, digits and `*-._` stand for
themselves, a space is a plus sign, and every other byte of the UTF-8 text is
written as its two hexadecimal digits.  Reading a written pair gives the bytes
of exactly that pair.
-/

namespace ServiceRouter.Foundation

def utf8Bytes (text : String) : List UInt8 := text.toUTF8.data.toList

/-! ## Writing -/

def isKeptByte (b : UInt8) : Bool :=
  let c := Char.ofNat b.toNat
  b.toNat < 128 && (c.isAlphanum || "*-._".toList.contains c)

def hexDigit (n : Nat) : Char :=
  Char.ofNat (if n < 10 then 48 + n else 55 + n)

def encodeByte (b : UInt8) : List Char :=
  if isKeptByte b then [Char.ofNat b.toNat]
  else if b = 32 then ['+']
  else ['%', hexDigit (b.toNat / 16), hexDigit (b.toNat % 16)]

def encodeText (text : String) : List Char :=
  (utf8Bytes text).flatMap encodeByte

def encodePair (name value : String) : String :=
  String.ofList (encodeText name ++ '=' :: encodeText value)

/-! ## Reading -/

def hexValue (c : Char) : Option Nat :=
  if c.isDigit then some (c.toNat - 48)
  else if 'A' ≤ c ∧ c ≤ 'F' then some (c.toNat - 55)
  else if 'a' ≤ c ∧ c ≤ 'f' then some (c.toNat - 87)
  else none

def decodeText : List Char → List UInt8
  | [] => []
  | '+' :: rest => 32 :: decodeText rest
  | '%' :: high :: low :: rest =>
      match hexValue high, hexValue low with
      | some h, some l => UInt8.ofNat (16 * h + l) :: decodeText rest
      | _, _ => 37 :: decodeText (high :: low :: rest)
  | c :: rest => String.utf8EncodeChar c ++ decodeText rest

/-- The pairs of a query; one without an equals sign has an empty value. -/
def decodePairs (query : String) : List (List UInt8 × List UInt8) :=
  ((query.toList.splitOn '&').filter (!·.isEmpty)).map fun pair =>
    (decodeText (pair.takeWhile (· ≠ '=')),
      decodeText ((pair.dropWhile (· ≠ '=')).drop 1))

/-- The query of a URL, which ends where the fragment begins. -/
def urlQuery (url : String) : Option String :=
  match (url.toList.takeWhile (· ≠ '#')).dropWhile (· ≠ '?') with
  | [] => none
  | _ :: query => some (String.ofList query)

/-- A text that neither begins a query nor a fragment. -/
def IsPlainPath (text : String) : Prop :=
  '?' ∉ text.toList ∧ '#' ∉ text.toList

instance (text : String) : Decidable (IsPlainPath text) :=
  inferInstanceAs (Decidable (_ ∧ _))

/-! ## Reading what was written -/

private theorem kept_byte_facts : ∀ n < 256, isKeptByte (UInt8.ofNat n) →
    String.utf8EncodeChar (Char.ofNat n) = [UInt8.ofNat n] ∧
      Char.ofNat n ≠ '+' ∧ Char.ofNat n ≠ '%' ∧ Char.ofNat n ≠ '&' ∧
      Char.ofNat n ≠ '=' ∧ Char.ofNat n ≠ '#' := by
  decide +kernel

private theorem hexDigit_facts : ∀ n < 16,
    hexValue (hexDigit n) = some n ∧ hexDigit n ≠ '&' ∧ hexDigit n ≠ '=' ∧
      hexDigit n ≠ '#' := by
  decide

theorem decodeText_encodeByte (b : UInt8) (rest : List Char) :
    decodeText (encodeByte b ++ rest) = b :: decodeText rest := by
  have hlt : b.toNat < 256 := UInt8.toNat_lt b
  unfold encodeByte
  split
  · next hkept =>
      obtain ⟨hbytes, hplus, hpercent, -⟩ := kept_byte_facts b.toNat hlt
        (by simpa using hkept)
      rw [List.singleton_append, decodeText, hbytes]
      · simp
      · exact hplus
      · exact fun _ _ _ hc _ => hpercent hc
  · split
    · next hspace => rw [hspace]; rfl
    · have hhigh := hexDigit_facts (b.toNat / 16) (by omega)
      have hlow := hexDigit_facts (b.toNat % 16) (by omega)
      simp only [List.cons_append, List.nil_append, decodeText, hhigh.1,
        hlow.1]
      congr 1
      rw [Nat.div_add_mod]
      simp

theorem decodeText_encodeText (text : String) :
    decodeText (encodeText text) = utf8Bytes text := by
  have hbytes (bytes : List UInt8) :
      decodeText (bytes.flatMap encodeByte) = bytes := by
    induction bytes with
    | nil => rfl
    | cons b bytes ih =>
        rw [List.flatMap_cons, decodeText_encodeByte, ih]
  exact hbytes _

theorem separator_not_mem_encodeText {text : String} {c : Char}
    (h : c ∈ encodeText text) : c ≠ '&' ∧ c ≠ '=' ∧ c ≠ '#' := by
  obtain ⟨b, -, hc⟩ := List.mem_flatMap.mp h
  have hlt : b.toNat < 256 := UInt8.toNat_lt b
  unfold encodeByte at hc
  split at hc
  · next hkept =>
      obtain ⟨-, -, -, hseparators⟩ := kept_byte_facts b.toNat hlt
        (by simpa using hkept)
      rw [List.mem_singleton.mp hc]
      exact hseparators
  · split at hc
    · rw [List.mem_singleton.mp hc]
      decide
    · have hhigh := hexDigit_facts (b.toNat / 16) (by omega)
      have hlow := hexDigit_facts (b.toNat % 16) (by omega)
      simp only [List.mem_cons, List.not_mem_nil, or_false] at hc
      rcases hc with rfl | rfl | rfl
      · decide
      · exact hhigh.2
      · exact hlow.2

theorem decodePairs_encodePair (name value : String) :
    decodePairs (encodePair name value) =
      [(utf8Bytes name, utf8Bytes value)] := by
  have hname : ∀ c ∈ encodeText name, decide (c ≠ '=') = true := fun c hc =>
    decide_eq_true (separator_not_mem_encodeText hc).2.1
  have hwhole : '&' ∉ encodeText name ++ '=' :: encodeText value := by
    simp only [List.mem_append, List.mem_cons, not_or]
    exact ⟨fun h => (separator_not_mem_encodeText h).1 rfl, by decide,
      fun h => (separator_not_mem_encodeText h).1 rfl⟩
  rw [decodePairs, encodePair, String.toList_ofList,
    List.splitOn_eq_singleton hwhole, List.filter_cons_of_pos (by simp),
    List.filter_nil, List.map_singleton, List.takeWhile_append_of_pos hname,
    List.dropWhile_append_of_pos hname]
  simp [decodeText_encodeText]

/-- No character of a written pair begins the fragment of a URL. -/
theorem hash_not_mem_encodePair (name value : String) :
    '#' ∉ (encodePair name value).toList := by
  rw [encodePair, String.toList_ofList]
  simp only [List.mem_append, List.mem_cons, not_or]
  exact ⟨fun h => (separator_not_mem_encodeText h).2.2 rfl, by decide,
    fun h => (separator_not_mem_encodeText h).2.2 rfl⟩

theorem isPlainPath_append {first second : String} :
    IsPlainPath (first ++ second) ↔
      IsPlainPath first ∧ IsPlainPath second := by
  simp only [IsPlainPath, String.toList_append, List.mem_append, not_or]
  exact and_and_and_comm

theorem urlQuery_of_isPlainPath {url : String} (h : IsPlainPath url) :
    urlQuery url = none := by
  have hquery : ∀ c ∈ url.toList.takeWhile (· ≠ '#'),
      decide (c ≠ '?') = true := fun c hc =>
    decide_eq_true fun heq => h.1 (heq ▸ List.takeWhile_subset _ hc)
  rw [urlQuery, List.dropWhile_eq_nil_iff.mpr hquery]

theorem urlQuery_append {base query : String} (hbase : IsPlainPath base)
    (hquery : '#' ∉ query.toList) :
    urlQuery s!"{base}?{query}" = some query := by
  have hwhole : ∀ c ∈ base.toList ++ '?' :: query.toList,
      decide (c ≠ '#') = true := by
    intro c hc
    refine decide_eq_true fun heq => ?_
    simp only [heq, List.mem_append, List.mem_cons] at hc
    rcases hc with hc | hc | hc
    · exact hbase.2 hc
    · cases hc
    · exact hquery hc
  have hpath : ∀ c ∈ base.toList, decide (c ≠ '?') = true := fun c hc =>
    decide_eq_true fun heq => hbase.1 (heq ▸ hc)
  have hlist : (s!"{base}?{query}").toList =
      base.toList ++ '?' :: query.toList := by simp [toString]
  rw [urlQuery, hlist, List.takeWhile_eq_self_iff.mpr hwhole,
    List.dropWhile_append_of_pos hpath]
  simp

end ServiceRouter.Foundation
