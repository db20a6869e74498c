import ServiceRouter.Foundation.Text
import ServiceRouter.Foundation.HashMap
import ServiceRouter.Foundation.MultiMap

/-!
# What the router takes from outside its repository

HTTP header types, and one `Platform` value for the functions of the `glob`,
`regex`, `http` and `reqwest` crates and the Unicode tables of the toolchain
that the code calls.  Results that hold for every `Platform` do not depend on
how these behave beyond what the theorem states.
-/

namespace ServiceRouter

open Foundation

/-- A character of a header name in the form `http` stores it. -/
def isHeaderNameChar (c : Char) : Bool :=
  c.isLower || c.isDigit || "!#$%&'*+-.^_`|~".toList.contains c

def isHeaderName (name : String) : Bool :=
  !name.toList.isEmpty && name.toList.all isHeaderNameChar

/-- `http::HeaderName`: a nonempty token in lower case. -/
structure HeaderName where
  asStr : String
  token : isHeaderName asStr = true
  deriving DecidableEq

/-- `http::HeaderValue`: opaque octets. -/
structure HeaderValue where
  octets : List UInt8
  deriving DecidableEq

/-- `http::HeaderMap`. -/
abbrev HeaderMap := MultiMap HeaderName HeaderValue

structure Platform where
  caseMapping : CaseMapping
  /-- `glob::Pattern::new`, with the text of its error. -/
  globNew : String → Except String Unit
  /-- Whether the compiled glob pattern matches the path. -/
  globMatches : String → String → Bool
  /-- `regex::Regex::new`, with the text of its error. -/
  regexNew : String → Except String Unit
  /-- Whether the compiled regex matches somewhere in the path. -/
  regexIsMatch : String → String → Bool
  /-- `HeaderName::from_bytes` on the bytes of a string. -/
  headerName : String → Option HeaderName
  /-- `HeaderValue::from_str`. -/
  headerValue : String → Option HeaderValue
  /-- `HeaderValue::to_str`. -/
  headerText : HeaderValue → Option String
  /-- The text of the error `reqwest` reports for a request it cannot build. -/
  builderError : String

private theorem headerNameMark_cases {c : Char}
    (h : "!#$%&'*+-.^_`|~".toList.contains c = true) :
    isAsciiChar c = true ∧ c.isUpper = false := by
  have hall : ("!#$%&'*+-.^_`|~".toList.all fun c =>
      isAsciiChar c && !c.isUpper) = true := by decide
  simpa using List.all_eq_true.mp hall c (List.contains_iff_mem.mp h)

theorem isAsciiChar_of_isHeaderNameChar {c : Char}
    (h : isHeaderNameChar c = true) : isAsciiChar c = true := by
  simp only [isHeaderNameChar, Bool.or_eq_true] at h
  rcases h with (h | h) | h
  · exact isAsciiChar_of_isLower h
  · rw [isDigit_iff_toNat] at h
    simp only [isAsciiChar, decide_eq_true_eq]
    omega
  · exact (headerNameMark_cases h).1

theorem toLower_of_isHeaderNameChar {c : Char}
    (h : isHeaderNameChar c = true) : c.toLower = c := by
  refine toLower_of_not_isUpper fun hup => ?_
  simp only [isHeaderNameChar, Bool.or_eq_true] at h
  rcases h with (h | h) | h
  · rw [isUpper_iff_toNat] at hup
    rw [isLower_iff_toNat] at h
    omega
  · rw [isUpper_iff_toNat] at hup
    rw [isDigit_iff_toNat] at h
    omega
  · simp [(headerNameMark_cases h).2] at hup

theorem HeaderName.isHeaderNameChar_of_mem (name : HeaderName) {c : Char}
    (hc : c ∈ name.asStr.toList) : isHeaderNameChar c = true := by
  have htoken := name.token
  simp only [isHeaderName, Bool.and_eq_true] at htoken
  exact List.all_eq_true.mp htoken.2 c hc

/-- A stored header name is already in lower case. -/
@[simp] theorem toLowercase_headerName (tables : CaseMapping)
    (name : HeaderName) : tables.toLowercase name.asStr = name.asStr := by
  have hascii : ∀ c ∈ name.asStr.toList, isAsciiChar c = true := fun c hc =>
    isAsciiChar_of_isHeaderNameChar (name.isHeaderNameChar_of_mem hc)
  rw [tables.toLowercase_ascii hascii]
  have hmap : name.asStr.toList.map Char.toLower = name.asStr.toList := by
    conv_rhs => rw [← List.map_id name.asStr.toList]
    exact List.map_congr_left fun c hc =>
      toLower_of_isHeaderNameChar (name.isHeaderNameChar_of_mem hc)
  rw [hmap, String.ofList_toList]

/-! ## A concrete platform -/

/-- Header names by the token grammar: letters are stored in lower case. -/
def parseHeaderName (name : String) : Option HeaderName :=
  let lower := String.ofList (name.toList.map Char.toLower)
  if h : isHeaderName lower = true ∧ name.toList.length ≤ 65535
  then some ⟨lower, h.1⟩
  else none

/-- Header values from visible ASCII text and tabs. -/
def parseHeaderValue (text : String) : Option HeaderValue :=
  if text.toList.all fun c => (32 ≤ c.toNat && c.toNat < 127) || c = '\t'
  then some ⟨text.toList.map fun c => UInt8.ofNat c.toNat⟩
  else none

def showHeaderValue (value : HeaderValue) : Option String :=
  if value.octets.all fun b => (32 ≤ b && b < 127) || b = 9
  then some (String.ofList (value.octets.map fun b => Char.ofNat b.toNat))
  else none

/--
The platform of the concrete inputs below: ASCII letter case, header syntax by
the grammar, and patterns without metacharacters, which match literally.
-/
def Platform.plain : Platform where
  caseMapping := .ascii
  globNew _ := .ok ()
  globMatches pattern path := pattern == path
  regexNew _ := .ok ()
  regexIsMatch pattern path := path.toList.tails.any pattern.toList.isPrefixOf
  headerName := parseHeaderName
  headerValue := parseHeaderValue
  headerText := showHeaderValue
  builderError := "builder error"

end ServiceRouter
