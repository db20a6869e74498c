import ServiceRouter.Foundation.InsertOrder
import ServiceRouter.Main.RouteExplain

/-!
# Command-line headers over those of the request file

Keys replace each other as texts while the two sources are merged; only then
are they read as header names.  Spellings of one name that differ in letter
case survive the merge side by side, and the order of the merged map decides
between them.
-/

namespace ServiceRouter

open Foundation

/-! ## The header map that is built -/

/-- The name and the value of a header both of which are valid. -/
def readHeader (P : Platform) (header : String × String) :
    Option (HeaderName × HeaderValue) :=
  (P.headerName header.1).bind fun name =>
    (P.headerValue header.2).map fun value => (name, value)

theorem readHeader_eq_some {P : Platform} {header : String × String}
    {name : HeaderName} {value : HeaderValue} :
    readHeader P header = some (name, value) ↔
      P.headerName header.1 = some name ∧
        P.headerValue header.2 = some value := by
  unfold readHeader
  cases P.headerName header.1 <;> cases P.headerValue header.2 <;> simp

theorem buildHeaderMap_eq (P : Platform) (headers : List (String × String)) :
    buildHeaderMap P headers =
      MultiMap.empty.insertAll (headers.filterMap (readHeader P)) := by
  have hfold (map : HeaderMap) : headers.foldl (insertHeader P) map =
      map.insertAll (headers.filterMap (readHeader P)) := by
    induction headers generalizing map with
    | nil => rfl
    | cons header headers ih =>
        rw [List.foldl_cons, ih]
        cases hname : P.headerName header.1 with
        | none => simp [insertHeader, readHeader, hname]
        | some name =>
            cases hvalue : P.headerValue header.2 with
            | none => simp [insertHeader, readHeader, hname, hvalue]
            | some value =>
                simp [insertHeader, readHeader, hname, hvalue,
                  MultiMap.insertAll]
  exact hfold _

/-! ## What is merged -/

section Merge

variable (file : HashMap String String) (headers : List (String × String))

/-- The last header of the command line that the test accepts. -/
def lastGiven (test : String → Bool) : Option (String × String) :=
  headers.reverse.find? fun header => test header.1

/-- A spelling keeps its last value of the command line, or else the value it
has in the file. -/
def Survives (raw v : String) : Prop :=
  (∃ header, lastGiven headers (· = raw) = some header ∧ header.2 = v) ∨
    lastGiven headers (· = raw) = none ∧ file.lookup raw = some v

/-- The value that a name is to have: the last one given for it on the command
line, or else one that it has in the file. -/
def Wanted (P : Platform) (name : HeaderName) (v : String) : Prop :=
  (∃ header, lastGiven headers (P.headerName · = some name) = some header ∧
      header.2 = v) ∨
    lastGiven headers (P.headerName · = some name) = none ∧
      ∃ raw, P.headerName raw = some name ∧ file.lookup raw = some v

def mergedHeaders : HashMap String String :=
  headers.foldl (fun merged header => merged.insert header.1 header.2) file

theorem lookup_mergedHeaders (raw v : String) :
    (mergedHeaders file headers).lookup raw = some v ↔
      Survives file headers raw v := by
  rw [mergedHeaders, HashMap.lookup_foldl_insert Prod.fst Prod.snd, Survives,
    lastGiven]
  cases headers.reverse.find? fun header => decide (header.1 = raw) <;> simp

private theorem find?_of_imp {α : Type} {p q : α → Bool} {items : List α}
    {a : α} (himp : ∀ b, q b = true → p b = true)
    (hfind : items.find? p = some a) (hq : q a = true) :
    items.find? q = some a := by
  induction items with
  | nil => cases hfind
  | cons b items ih =>
      rw [List.find?_cons] at hfind ⊢
      cases hp : p b with
      | true =>
          rw [hp] at hfind
          cases hfind
          rw [hq]
      | false =>
          rw [hp] at hfind
          have hqb : q b = false := by
            by_contra hqb
            rw [himp b (by simpa using hqb)] at hp
            cases hp
          rw [hqb]
          exact ih hfind

/-- The value that a name is to have survives under some spelling of it. -/
theorem Wanted.survives {P : Platform} {name : HeaderName} {v : String}
    (h : Wanted file headers P name v) :
    ∃ raw, P.headerName raw = some name ∧ Survives file headers raw v := by
  rcases h with ⟨header, hlast, rfl⟩ | ⟨hnone, raw, hraw, hfile⟩
  · have hname : P.headerName header.1 = some name := by
      simpa using List.find?_some hlast
    refine ⟨header.1, hname, .inl ⟨header, ?_, rfl⟩⟩
    refine find?_of_imp (fun other hsame => ?_) hlast (by simp)
    simp only [decide_eq_true_eq] at hsame ⊢
    rw [hsame, hname]
  · refine ⟨raw, hraw, .inr ⟨?_, hfile⟩⟩
    rw [lastGiven, List.find?_eq_none] at hnone ⊢
    intro header hheader hsame
    refine hnone header hheader ?_
    simp only [decide_eq_true_eq] at hsame ⊢
    rw [hsame, hraw]

end Merge

/-! ## Overriding -/

/-- In every order of the merged map each name has exactly the value that it is
to have. -/
def Overrides (P : Platform) (sample : RouteRequestSample)
    (headers : List (String × String)) : Prop :=
  ∀ (iter : IterOrder) (path method : String) (name : HeaderName) (v : String),
    Wanted sample.headers headers P name v →
    ∃ value, P.headerValue v = some value ∧
      (buildHeaderMap P (mergeRequest iter (some sample) path method
        headers).headers).getAll name = [value]

/-- The value that a name is to have is valid, and no spelling of the name
survives with another valid one. -/
def SpellingsAgree (P : Platform) (sample : RouteRequestSample)
    (headers : List (String × String)) : Prop :=
  ∀ name v, Wanted sample.headers headers P name v →
    ∃ value, P.headerValue v = some value ∧
      ∀ raw w other, P.headerName raw = some name →
        Survives sample.headers headers raw w →
        P.headerValue w = some other → other = value

theorem overrides_iff (P : Platform) (sample : RouteRequestSample)
    (headers : List (String × String)) :
    Overrides P sample headers ↔ SpellingsAgree P sample headers := by
  have hitems {raw w : String} :
      (raw, w) ∈ (mergedHeaders sample.headers headers).entries.map
          (fun entry => (entry.1, entry.2)) ↔
        Survives sample.headers headers raw w := by
    rw [← lookup_mergedHeaders, ← Option.mem_def, AList.mem_lookup_iff]
    simp
  have horders {name : HeaderName} {v : String} {value : HeaderValue}
      (hwanted : Wanted sample.headers headers P name v)
      (hvalue : P.headerValue v = some value) :
      (∀ iter : IterOrder, (buildHeaderMap P (iter.order
          ((mergedHeaders sample.headers headers).entries.map
            fun entry => (entry.1, entry.2)))).getAll name = [value]) ↔
        ∀ raw w other, P.headerName raw = some name →
          Survives sample.headers headers raw w →
          P.headerValue w = some other → other = value := by
    obtain ⟨raw, hraw, hsurvives⟩ := hwanted.survives
    simp only [buildHeaderMap_eq]
    rw [MultiMap.forall_order_getAll_insertAll_iff
      ⟨(raw, v), hitems.mpr hsurvives,
        readHeader_eq_some.mpr ⟨hraw, hvalue⟩⟩]
    constructor
    · intro h raw w other hname hsurvives hother
      exact h (raw, w) (hitems.mpr hsurvives) other
        (readHeader_eq_some.mpr ⟨hname, hother⟩)
    · rintro h ⟨raw, w⟩ hmem other hread
      obtain ⟨hname, hother⟩ := readHeader_eq_some.mp hread
      exact h raw w other hname (hitems.mp hmem) hother
  constructor
  · intro h name v hwanted
    obtain ⟨value, hvalue, _⟩ := h .insertion "" "" name v hwanted
    refine ⟨value, hvalue, (horders hwanted hvalue).mp fun iter => ?_⟩
    obtain ⟨value', hvalue', hget⟩ := h iter "" "" name v hwanted
    obtain rfl : value' = value :=
      Option.some.inj (hvalue'.symm.trans hvalue)
    exact hget
  · intro h iter path method name v hwanted
    obtain ⟨value, hvalue, hagree⟩ := h name v hwanted
    exact ⟨value, hvalue, (horders hwanted hvalue).mpr hagree iter⟩

/-- A sample file with one header. -/
def taggedSample : RouteRequestSample where
  path := "/"
  method := none
  headers := AList.singleton "X-A" "1"

/-- The command line gives the header in lower case; in the order in which the
maps are built here the value of the file is kept. -/
theorem taggedSample_not_overridden :
    (buildHeaderMap .plain (mergeRequest .insertion (some taggedSample) "/"
        "GET" [("x-a", "2")]).headers).getAll ⟨"x-a", by decide⟩ = [⟨[49]⟩] ∧
      ¬ Overrides .plain taggedSample [("x-a", "2")] := by
  refine ⟨rfl, fun h => ?_⟩
  obtain ⟨value, hvalue, hget⟩ := h .insertion "/" "GET"
    ⟨"x-a", by decide⟩ "2" (.inl ⟨("x-a", "2"), by decide, rfl⟩)
  have hfile : value = ⟨[49]⟩ := (List.singleton_inj.mp hget).symm
  rw [hfile] at hvalue
  exact absurd hvalue (by decide)

end ServiceRouter
