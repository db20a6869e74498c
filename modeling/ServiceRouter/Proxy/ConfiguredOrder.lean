import ServiceRouter.Foundation.InsertOrder
import ServiceRouter.Proxy.HttpProxy
import ServiceRouter.Routing.Matcher

/-!
# Configured response headers in any order

The keys of a configured map are texts; two that differ in letter case are one
header name once they are compiled.  Which of their values the client receives
is then decided by the order in which the map is iterated.
-/

namespace ServiceRouter

open Foundation

variable {P : Platform} {routeId : String}

/-! ## Compiled entries -/

theorem compileResponseHeader_eq_ok {nameRaw valRaw : String}
    {header : HeaderName × HeaderValue} :
    compileResponseHeader P routeId nameRaw valRaw = .ok header ↔
      isForbiddenConfigResponseHeader P nameRaw = false ∧
        P.headerName nameRaw = some header.1 ∧
        P.headerValue valRaw = some header.2 := by
  unfold compileResponseHeader
  cases isForbiddenConfigResponseHeader P nameRaw with
  | true => simp
  | false =>
      cases P.headerName nameRaw with
      | none => simp
      | some name =>
          cases P.headerValue valRaw with
          | none => simp
          | some value => simp [Prod.ext_iff]

/-- The entry makes compilation fail. -/
def RejectedEntry (P : Platform) (entry : (_ : String) × String) : Prop :=
  isForbiddenConfigResponseHeader P entry.1 = true ∨
    P.headerName entry.1 = none ∨ P.headerValue entry.2 = none

/-- Two keys are one header name and have different values. -/
def Clashing (P : Platform) (map : HashMap String String) : Prop :=
  ∃ first ∈ map.entries, ∃ second ∈ map.entries, ∃ name,
    P.headerName first.1 = some name ∧ P.headerName second.1 = some name ∧
      P.headerValue first.2 ≠ P.headerValue second.2

/-- The documented behaviour of `HeaderName::from_bytes`: a valid name is
stored in lower case. -/
def StoresLowerCase (P : Platform) : Prop :=
  ∀ text name, P.headerName text = some name →
    name.asStr.toList = text.toList.map Char.toLower

theorem isForbidden_headerName (hlower : StoresLowerCase P) {text : String}
    {name : HeaderName} (h : P.headerName text = some name) :
    isForbiddenConfigResponseHeader P name.asStr =
      isForbiddenConfigResponseHeader P text := by
  have hchars := hlower text name h
  have hascii : ∀ c ∈ text.toList, isAsciiChar c = true := by
    intro c hc
    have hstored : c.toLower ∈ name.asStr.toList := by
      rw [hchars]
      exact List.mem_map_of_mem hc
    rw [← isAsciiChar_toLower]
    exact isAsciiChar_of_isHeaderNameChar (name.isHeaderNameChar_of_mem hstored)
  have htext : P.caseMapping.toLowercase text = name.asStr := by
    rw [P.caseMapping.toLowercase_ascii hascii, ← hchars,
      String.ofList_toList]
  have hsame : name.asStr.toList.map Char.toLower = name.asStr.toList := by
    rw [hchars, List.map_map]
    simp [Function.comp_def]
  unfold isForbiddenConfigResponseHeader isHopByHop eqIgnoreAsciiCase
  rw [toLowercase_headerName, htext, hsame, hchars]

/-! ## Compiled maps -/

theorem mem_of_compileResponseHeaders {map : HashMap String String}
    {headers : List (HeaderName × HeaderValue)}
    (h : compileResponseHeaders P routeId map = .ok headers)
    {header : HeaderName × HeaderValue} :
    header ∈ headers ↔ ∃ entry ∈ map.entries,
      compileResponseHeader P routeId entry.1 entry.2 = .ok header := by
  rw [eq_filterMap_of_mapM_eq_ok h, List.mem_filterMap]
  refine exists_congr fun entry => and_congr_right fun _ => ?_
  cases compileResponseHeader P routeId entry.1 entry.2 <;>
    simp [Except.toOption]

theorem exists_compileResponseHeaders_iff {map : HashMap String String} :
    (∃ headers, compileResponseHeaders P routeId map = .ok headers) ↔
      ∀ entry ∈ map.entries, ¬ RejectedEntry P entry := by
  rw [compileResponseHeaders, exists_mapM_eq_ok_iff]
  refine forall₂_congr fun entry _ => ?_
  simp only [compileResponseHeader_eq_ok, RejectedEntry, not_or,
    Bool.not_eq_true, ← ne_eq, Option.ne_none_iff_exists', Prod.exists,
    exists_and_left, exists_and_right]

/-- Any two orders of the map compile alike, to names that are allowed, and a
client receives the same headers. -/
def OneMeaning (P : Platform) (routeId : String)
    (map : HashMap String String) : Prop :=
  ∀ left right : HashMap String String,
    map.SameBindings left → map.SameBindings right →
    ((∃ headers, compileResponseHeaders P routeId left = .ok headers) ↔
      ∃ headers, compileResponseHeaders P routeId right = .ok headers) ∧
    ∀ leftHeaders rightHeaders,
      compileResponseHeaders P routeId left = .ok leftHeaders →
      compileResponseHeaders P routeId right = .ok rightHeaders →
      (∀ header ∈ leftHeaders,
        isForbiddenConfigResponseHeader P header.1.asStr = false) ∧
      ∀ respHeaders name,
        (responseHeaders P respHeaders (some leftHeaders)).getAll name =
          (responseHeaders P respHeaders (some rightHeaders)).getAll name

/-- An order that iterates an entry last gives its name its value. -/
private theorem exists_order_deciding {map : HashMap String String}
    (hcompiles : ∀ entry ∈ map.entries, ¬ RejectedEntry P entry)
    {entry : (_ : String) × String} (hentry : entry ∈ map.entries)
    {name : HeaderName} {value : HeaderValue}
    (hname : P.headerName entry.1 = some name)
    (hvalue : P.headerValue entry.2 = some value) (routeId : String) :
    ∃ (order : HashMap String String)
      (headers : List (HeaderName × HeaderValue)),
      map.SameBindings order ∧
      compileResponseHeaders P routeId order = .ok headers ∧
      ∀ respHeaders, (responseHeaders P respHeaders (some headers)).getAll
        name = [value] := by
  obtain ⟨n, front, hrotate⟩ := exists_rotate_eq_concat hentry
  have hallowed : isForbiddenConfigResponseHeader P entry.1 = false := by
    have hkept := hcompiles entry hentry
    simp only [RejectedEntry, not_or, Bool.not_eq_true] at hkept
    exact hkept.1
  have hlast : compileResponseHeader P routeId entry.1 entry.2 =
      .ok (name, value) :=
    compileResponseHeader_eq_ok.mpr ⟨hallowed, hname, hvalue⟩
  have hall : ∀ entry ∈ (map.rotated n).entries, ¬ RejectedEntry P entry :=
    fun entry hmem => hcompiles entry (List.mem_rotate.mp hmem)
  obtain ⟨headers, hheaders⟩ : ∃ headers,
      compileResponseHeaders P routeId (map.rotated n) = .ok headers :=
    exists_compileResponseHeaders_iff.mpr hall
  refine ⟨map.rotated n, headers, map.sameBindings_rotated n, hheaders,
    fun respHeaders => ?_⟩
  have hcompiled := eq_filterMap_of_mapM_eq_ok hheaders
  rw [show (map.rotated n).entries = front ++ [entry] from hrotate,
    List.filterMap_append, List.filterMap_cons_some (b := (name, value))
      (by rw [hlast]; rfl), List.filterMap_nil] at hcompiled
  rw [hcompiled]
  exact MultiMap.getAll_insertAll_concat _ _ name value

/-- A map has one meaning exactly when it does not compile or no two of its
keys clash. -/
theorem oneMeaning_iff (hlower : StoresLowerCase P)
    (map : HashMap String String) :
    OneMeaning P routeId map ↔
      (∃ entry ∈ map.entries, RejectedEntry P entry) ∨ ¬ Clashing P map := by
  constructor
  · intro hone
    by_cases hrejected : ∃ entry ∈ map.entries, RejectedEntry P entry
    · exact .inl hrejected
    · refine .inr ?_
      rintro ⟨first, hfirst, second, hsecond, name, hname, hname', hne⟩
      have hcompiles : ∀ entry ∈ map.entries, ¬ RejectedEntry P entry :=
        fun entry hentry hbad => hrejected ⟨entry, hentry, hbad⟩
      have hvalue {entry : (_ : String) × String}
          (hentry : entry ∈ map.entries) :
          ∃ value, P.headerValue entry.2 = some value :=
        Option.ne_none_iff_exists'.mp fun hnone =>
          hcompiles entry hentry (.inr (.inr hnone))
      obtain ⟨v, hv⟩ := hvalue hfirst
      obtain ⟨w, hw⟩ := hvalue hsecond
      obtain ⟨left, leftHeaders, hleft, hl, hgetl⟩ :=
        exists_order_deciding hcompiles hfirst hname hv routeId
      obtain ⟨right, rightHeaders, hright, hr, hgetr⟩ :=
        exists_order_deciding hcompiles hsecond hname' hw routeId
      have hsame := ((hone left right hleft hright).2 leftHeaders
        rightHeaders hl hr).2 .empty name
      rw [hgetl, hgetr] at hsame
      rw [hv, hw, List.singleton_inj.mp hsame] at hne
      exact hne rfl
  · intro hcondition left right hleft hright
    have hmem {order : HashMap String String} (h : map.SameBindings order)
        (entry : (_ : String) × String) :
        entry ∈ order.entries ↔ entry ∈ map.entries := (h.mem_iff).symm
    refine ⟨?_, fun leftHeaders rightHeaders hl hr => ⟨?_, ?_⟩⟩
    · simp only [exists_compileResponseHeaders_iff, hmem hleft, hmem hright]
    · intro header hheader
      obtain ⟨entry, _, hentry⟩ :=
        (mem_of_compileResponseHeaders hl).mp hheader
      obtain ⟨hallowed, hname, _⟩ := compileResponseHeader_eq_ok.mp hentry
      rw [isForbidden_headerName hlower hname, hallowed]
    · have hclash : ¬ Clashing P map := by
        refine hcondition.resolve_left ?_
        rintro ⟨entry, hentry, hbad⟩
        exact exists_compileResponseHeaders_iff.mp ⟨leftHeaders, hl⟩ entry
          ((hmem hleft entry).mpr hentry) hbad
      have hperm : leftHeaders.Perm rightHeaders :=
        mapM_perm (hleft.symm.trans hright) hl hr
      intro respHeaders name
      refine MultiMap.getAll_insertAll_perm hperm ?_ _ name
      intro k v w hv hw
      obtain ⟨first, hfirst, hcompiled⟩ :=
        (mem_of_compileResponseHeaders hl).mp hv
      obtain ⟨second, hsecond, hcompiled'⟩ :=
        (mem_of_compileResponseHeaders hl).mp hw
      obtain ⟨_, hname, hvalue⟩ := compileResponseHeader_eq_ok.mp hcompiled
      obtain ⟨_, hname', hvalue'⟩ := compileResponseHeader_eq_ok.mp hcompiled'
      by_contra hne
      refine hclash ⟨first, (hmem hleft first).mp hfirst, second,
        (hmem hleft second).mp hsecond, k, hname, hname', ?_⟩
      rw [hvalue, hvalue']
      exact fun heq => hne (Option.some.inj heq)

theorem plain_storesLowerCase : StoresLowerCase .plain := by
  intro text name h
  change parseHeaderName text = some name at h
  simp only [parseHeaderName] at h
  split at h
  · cases h
    exact String.toList_ofList
  · cases h

/-- Two names, one of them spelled twice with one value. -/
def spelledAlike : HashMap String String :=
  ((AList.singleton "x-a" "1").insert "X-A" "1").insert "x-b" "2"

theorem oneMeaning_spelledAlike :
    StoresLowerCase .plain ∧ OneMeaning .plain "route" spelledAlike := by
  refine ⟨plain_storesLowerCase,
    (oneMeaning_iff plain_storesLowerCase _).mpr (.inr ?_)⟩
  rintro ⟨first, hfirst, second, hsecond, name, hname, hname', hne⟩
  have hvalues : ∀ first ∈ spelledAlike.entries,
      ∀ second ∈ spelledAlike.entries,
      Platform.plain.headerName first.1 = Platform.plain.headerName second.1 →
      Platform.plain.headerValue first.2 =
        Platform.plain.headerValue second.2 := by
    decide
  exact hne (hvalues first hfirst second hsecond (hname.trans hname'.symm))

/-- Two spellings of one name with different values. -/
def spelledTwice : HashMap String String :=
  (AList.singleton "x-a" "2").insert "X-A" "1"

def nameXA : HeaderName := ⟨"x-a", by decide⟩

/-- The client receives one value or the other. -/
theorem spelledTwice_differs :
    spelledTwice.SameBindings (spelledTwice.rotated 1) ∧
      compileResponseHeaders .plain "route" spelledTwice =
        .ok [(nameXA, ⟨[49]⟩), (nameXA, ⟨[50]⟩)] ∧
      compileResponseHeaders .plain "route" (spelledTwice.rotated 1) =
        .ok [(nameXA, ⟨[50]⟩), (nameXA, ⟨[49]⟩)] ∧
      (responseHeaders .plain .empty (some
        [(nameXA, ⟨[49]⟩), (nameXA, ⟨[50]⟩)])).getAll nameXA = [⟨[50]⟩] ∧
      (responseHeaders .plain .empty (some
        [(nameXA, ⟨[50]⟩), (nameXA, ⟨[49]⟩)])).getAll nameXA = [⟨[49]⟩] :=
  ⟨spelledTwice.sameBindings_rotated 1, rfl, rfl, by decide, by decide⟩

end ServiceRouter
