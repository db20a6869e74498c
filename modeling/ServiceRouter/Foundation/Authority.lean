import ServiceRouter.Foundation.Text

/-!
# Authorities of URLs

The grammar of an authority: an optional user information, a host and an
optional port.  A host is a name, in which a colon cannot occur, or an address
in brackets; so a colon outside of brackets always begins the port.
-/

namespace ServiceRouter.Foundation

/-! ## Characters -/

def isHexDigit (c : Char) : Bool :=
  c.isDigit || "abcdefABCDEF".toList.contains c

def isUnreserved (c : Char) : Bool :=
  c.isAlphanum || c == '-' || c == '.' || c == '_' || c == '~'

def isSubDelim (c : Char) : Bool := "!$&'()*+,;=".toList.contains c

/-- Allowed characters and percent-encoded bytes. -/
def allEncoded (allowed : Char → Bool) : List Char → Bool
  | [] => true
  | '%' :: a :: b :: rest =>
      isHexDigit a && isHexDigit b && allEncoded allowed rest
  | c :: rest => allowed c && allEncoded allowed rest

def isRegName (text : List Char) : Bool :=
  allEncoded (fun c => isUnreserved c || isSubDelim c) text

def isUserinfo (text : List Char) : Bool :=
  allEncoded (fun c => isUnreserved c || isSubDelim c || c == ':') text

/-! ## Addresses -/

/-- A number up to 255 without leading zeros. -/
def isDecOctet (text : List Char) : Bool :=
  !text.isEmpty && text.all Char.isDigit && digitsValue text ≤ 255 &&
    (text.length = 1 || text.head? ≠ some '0')

def isIpv4 (text : List Char) : Bool :=
  let octets := text.splitOn '.'
  octets.length = 4 && octets.all isDecOctet

def isH16 (text : List Char) : Bool :=
  !text.isEmpty && text.length ≤ 4 && text.all isHexDigit

/-- The number of groups of sixteen bits; the last piece may be an IPv4
address, which is two of them. -/
def groupCount : List (List Char) → Option Nat
  | [] => none
  | [piece] =>
      if isH16 piece then some 1 else if isIpv4 piece then some 2 else none
  | piece :: pieces =>
      if isH16 piece then (groupCount pieces).map (· + 1) else none

/-- What stands before and after the first double colon. -/
def splitElision : List Char → Option (List Char × List Char)
  | [] => none
  | c :: rest =>
      if [':'].isPrefixOf rest && c == ':' then some ([], rest.drop 1)
      else (splitElision rest).map fun parts => (c :: parts.1, parts.2)

/-- The groups on one side of a double colon. -/
def sideCount (count : List (List Char) → Option Nat) (side : List Char) :
    Option Nat :=
  if side.isEmpty then some 0 else count (side.splitOn ':')

def isIpv6 (text : List Char) : Bool :=
  match splitElision text with
  | none => groupCount (text.splitOn ':') = some 8
  | some (front, back) =>
      match sideCount (fun pieces =>
          if pieces.all isH16 then some pieces.length else none) front,
        sideCount groupCount back with
      | some before, some after => before + after ≤ 7
      | _, _ => false

def isIpvFuture : List Char → Bool
  | c :: rest =>
      let version := rest.takeWhile isHexDigit
      let address := (rest.dropWhile isHexDigit).drop 1
      (c == 'v' || c == 'V') && !version.isEmpty &&
        (rest.dropWhile isHexDigit).head? = some '.' && !address.isEmpty &&
        address.all fun d => isUnreserved d || isSubDelim d || d == ':'
  | [] => false

/-! ## Parsing -/

/-- `host` has no brackets; a port that is left empty is no port. -/
structure Authority where
  userinfo : Option (List Char)
  host : List Char
  port : Option Nat
  deriving DecidableEq

/-- What follows a host: nothing, or a colon and digits. -/
def parsePort : List Char → Option (Option Nat)
  | [] => some none
  | c :: digits =>
      if c = ':' ∧ digits.all Char.isDigit
      then some (if digits.isEmpty then none else some (digitsValue digits))
      else none

/-- An address whose opening bracket has been read. -/
def parseLiteral (text : List Char) : Option (List Char × Option Nat) :=
  let literal := text.takeWhile (· ≠ ']')
  if ']' ∈ text ∧ (isIpv6 literal || isIpvFuture literal)
  then
    (parsePort ((text.dropWhile (· ≠ ']')).drop 1)).map fun port =>
      (literal, port)
  else none

def parseName (text : List Char) : Option (List Char × Option Nat) :=
  let name := text.takeWhile (· ≠ ':')
  if isRegName name
  then (parsePort (text.dropWhile (· ≠ ':'))).map fun port => (name, port)
  else none

def parseHostPort (text : List Char) : Option (List Char × Option Nat) :=
  if text.head? = some '[' then parseLiteral (text.drop 1) else parseName text

def parseAuthority (text : List Char) : Option Authority :=
  if '@' ∈ text
  then
    let info := text.takeWhile (· ≠ '@')
    if isUserinfo info
    then
      (parseHostPort ((text.dropWhile (· ≠ '@')).drop 1)).map fun rest =>
        { userinfo := some info, host := rest.1, port := rest.2 }
    else none
  else
    (parseHostPort text).map fun rest =>
      { userinfo := none, host := rest.1, port := rest.2 }

/-! ## Names and ports -/

private theorem isUnreserved_ne {c d : Char} (h : isUnreserved c = true)
    (hd : isUnreserved d = false) : c ≠ d :=
  fun heq => by simp [heq, hd] at h

theorem isRegName_of_unreserved {text : List Char}
    (h : ∀ c ∈ text, isUnreserved c = true) : isRegName text = true := by
  induction text with
  | nil => rfl
  | cons c text ih =>
      rw [List.forall_mem_cons] at h
      have hpercent := isUnreserved_ne h.1 (d := '%') (by decide)
      rw [isRegName, allEncoded]
      · rw [h.1, Bool.true_or, Bool.true_and]
        exact ih h.2
      · rintro a b rest rfl
        exact absurd rfl hpercent

/-- A name of unreserved characters and a port are read back. -/
theorem parseAuthority_name_port {host : List Char}
    (hhost : ∀ c ∈ host, isUnreserved c = true) (port : Nat) :
    parseAuthority (host ++ ':' :: (toString port).toList) =
      some { userinfo := none, host := host, port := some port } := by
  have hcolon : ∀ c ∈ host, c ≠ ':' := fun c hc =>
    isUnreserved_ne (hhost c hc) (by decide)
  have hat : '@' ∉ host ++ ':' :: (toString port).toList := by
    intro hmem
    simp only [List.mem_append, List.mem_cons] at hmem
    rcases hmem with hmem | hmem | hmem
    · exact absurd rfl (isUnreserved_ne (hhost '@' hmem) (by decide))
    · simp at hmem
    · exact absurd (isDigit_of_mem_toString hmem) (by decide)
  have hopen : (host ++ ':' :: (toString port).toList).head? ≠ some '[' := by
    cases host with
    | nil => simp
    | cons c host =>
        have hc := isUnreserved_ne (hhost c List.mem_cons_self) (d := '[')
          (by decide)
        simpa using hc
  have hname : (host ++ ':' :: (toString port).toList).takeWhile
      (· ≠ ':') = host := by
    rw [List.takeWhile_append_of_pos (by simpa using hcolon)]
    simp
  have hrest : (host ++ ':' :: (toString port).toList).dropWhile
      (· ≠ ':') = ':' :: (toString port).toList := by
    rw [List.dropWhile_append_of_pos (by simpa using hcolon)]
    simp
  have hdigits : (toString port).toList.all Char.isDigit = true :=
    List.all_eq_true.mpr fun c hc => isDigit_of_mem_toString hc
  have hsome : (toString port).toList.isEmpty = false := by
    simp [Nat.toDigits_ne_nil]
  rw [parseAuthority, if_neg hat, parseHostPort, if_neg hopen, parseName,
    hname, hrest, if_pos (isRegName_of_unreserved hhost), parsePort,
    if_pos ⟨rfl, hdigits⟩, hsome, digitsValue_toString]
  rfl

/-- Outside of brackets no colon is part of a host. -/
theorem colon_not_mem_host {text : List Char} {authority : Authority}
    (hopen : '[' ∉ text) (h : parseAuthority text = some authority) :
    ':' ∉ authority.host := by
  have hplain {rest : List Char} {parsed : List Char × Option Nat}
      (hrest : '[' ∉ rest) (h : parseHostPort rest = some parsed) :
      ':' ∉ parsed.1 := by
    have hhead : rest.head? ≠ some '[' := fun hhead =>
      hrest (List.mem_of_mem_head? hhead)
    rw [parseHostPort, if_neg hhead, parseName] at h
    split at h
    · obtain ⟨port, _, rfl⟩ := Option.map_eq_some_iff.mp h
      exact fun hmem => by simpa using List.mem_takeWhile_imp hmem
    · cases h
  simp only [parseAuthority] at h
  split at h
  · split at h
    · obtain ⟨parsed, hparsed, rfl⟩ := Option.map_eq_some_iff.mp h
      refine hplain (fun hmem => hopen ?_) hparsed
      exact (List.dropWhile_suffix _).mem (List.mem_of_mem_drop hmem)
    · cases h
  · obtain ⟨parsed, hparsed, rfl⟩ := Option.map_eq_some_iff.mp h
    exact hplain hopen hparsed

/-! ## The characters of addresses -/

theorem isUnreserved_of_isHexDigit {c : Char} (h : isHexDigit c = true) :
    isUnreserved c = true := by
  rw [isHexDigit, Bool.or_eq_true] at h
  cases h with
  | inl hdigit => simp [isUnreserved, Char.isAlphanum, hdigit]
  | inr hletter =>
      have hall : "abcdefABCDEF".toList.all isUnreserved = true := by decide
      exact List.all_eq_true.mp hall c (by simpa using hletter)

theorem isUnreserved_of_isIpv4 {text : List Char} (h : isIpv4 text = true) :
    ∀ c ∈ text, isUnreserved c = true := by
  simp only [isIpv4, isDecOctet, Bool.and_eq_true, List.all_eq_true] at h
  intro c hc
  rcases forall_mem_of_splitOn (p := fun c => c.isDigit = true)
    (fun octet hoctet d hd => (h.2 octet hoctet).1.1.2 d hd) c hc with
    rfl | hdigit
  · decide
  · simp [isUnreserved, Char.isAlphanum, hdigit]

private theorem isUnreserved_of_isH16 {text : List Char}
    (h : isH16 text = true) : ∀ c ∈ text, isUnreserved c = true := by
  simp only [isH16, Bool.and_eq_true, List.all_eq_true] at h
  exact fun c hc => isUnreserved_of_isHexDigit (h.2 c hc)

private theorem isUnreserved_of_groupCount {pieces : List (List Char)} {n : Nat}
    (h : groupCount pieces = some n) :
    ∀ piece ∈ pieces, ∀ c ∈ piece, isUnreserved c = true := by
  induction pieces generalizing n with
  | nil => simp
  | cons piece pieces ih =>
      cases pieces with
      | nil =>
          rw [List.forall_mem_singleton]
          rw [groupCount] at h
          split at h
          · exact isUnreserved_of_isH16 ‹_›
          · split at h
            · exact isUnreserved_of_isIpv4 ‹_›
            · cases h
      | cons next pieces =>
          rw [groupCount] at h
          · split at h
            · obtain ⟨m, hm, _⟩ := Option.map_eq_some_iff.mp h
              exact List.forall_mem_cons.mpr
                ⟨isUnreserved_of_isH16 ‹_›, ih hm⟩
            · cases h
          · simp

private theorem splitElision_eq {text front back : List Char}
    (h : splitElision text = some (front, back)) :
    text = front ++ ':' :: ':' :: back := by
  induction text generalizing front with
  | nil => cases h
  | cons c text ih =>
      rw [splitElision] at h
      split at h
      · rename_i hmark
        simp only [Bool.and_eq_true, beq_iff_eq, List.isPrefixOf_iff_prefix]
          at hmark
        obtain ⟨⟨rest, rfl⟩, rfl⟩ := hmark
        cases h
        rfl
      · obtain ⟨parts, hparts, hcons⟩ := Option.map_eq_some_iff.mp h
        cases hcons
        rw [ih hparts]
        rfl

private theorem side_chars {count : List (List Char) → Option Nat}
    (hcount : ∀ {pieces n}, count pieces = some n →
      ∀ piece ∈ pieces, ∀ c ∈ piece, isUnreserved c = true)
    {side : List Char} {n : Nat} (h : sideCount count side = some n) :
    ∀ c ∈ side, c = ':' ∨ isUnreserved c = true := by
  rw [sideCount] at h
  split at h
  · have hnil : side = [] := List.isEmpty_iff.mp ‹_›
    simp [hnil]
  · exact forall_mem_of_splitOn (hcount h)

theorem colon_mem_of_isIpv6 {text : List Char} (h : isIpv6 text = true) :
    ':' ∈ text := by
  rw [isIpv6] at h
  cases hparts : splitElision text with
  | some parts => simp [splitElision_eq hparts]
  | none =>
      simp only [hparts, decide_eq_true_eq] at h
      by_contra hcolon
      rw [List.splitOn_eq_singleton hcolon, groupCount] at h
      grind

theorem chars_of_isIpv6 {text : List Char} (h : isIpv6 text = true) :
    ∀ c ∈ text, c = ':' ∨ isUnreserved c = true := by
  have hgroups {pieces : List (List Char)} {n : Nat}
      (hall : (if pieces.all isH16 then some pieces.length else none) =
        some n) : ∀ piece ∈ pieces, ∀ c ∈ piece, isUnreserved c = true := by
    split at hall
    · rename_i hpieces
      exact fun piece hpiece =>
        isUnreserved_of_isH16 (List.all_eq_true.mp hpieces piece hpiece)
    · cases hall
  rw [isIpv6] at h
  cases hparts : splitElision text with
  | none =>
      simp only [hparts, decide_eq_true_eq] at h
      exact forall_mem_of_splitOn (isUnreserved_of_groupCount h)
  | some parts =>
      obtain ⟨front, back⟩ := parts
      simp only [hparts] at h
      split at h
      · rename_i before after hbefore hafter
        have hfront := side_chars hgroups hbefore
        have hback := side_chars isUnreserved_of_groupCount hafter
        rw [splitElision_eq hparts]
        intro c hc
        simp only [List.mem_append, List.mem_cons] at hc
        rcases hc with hc | hc | hc | hc
        · exact hfront c hc
        · exact .inl hc
        · exact .inl hc
        · exact hback c hc
      · cases h

end ServiceRouter.Foundation
