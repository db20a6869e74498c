import Mathlib.Data.List.Infix
import ServiceRouter.Foundation.Template
import ServiceRouter.Proxy.HttpProxy
import ServiceRouter.Proxy.WsProxy

/-!
# The URLs of upgrades and of requests

Both builders put the same text behind the base.  The one for upgrades then
changes the first mark of either scheme that it finds anywhere in the base, so
the two agree as long as the base holds no mark of the scheme it does not
begin with.
-/

namespace ServiceRouter

open Foundation

/-! ## Replacing the first occurrence -/

theorem replaceFirst_eq_self_iff (pattern replacement text : List Char) :
    replaceFirst pattern replacement text = text ↔
      pattern = replacement ∨ ¬ pattern <:+: text := by
  induction text with
  | nil =>
      cases pattern with
      | nil => simp [replaceFirst, eq_comm]
      | cons c pattern => simp [replaceFirst]
  | cons c text ih =>
      rw [replaceFirst, List.infix_cons_iff]
      by_cases hstart : pattern <+: c :: text
      · obtain ⟨rest, hrest⟩ := hstart
        have hdrop : (c :: text).drop pattern.length = rest := by
          rw [← hrest, List.drop_left]
        rw [if_pos (by simp [← hrest]), hdrop, ← hrest,
          List.append_left_inj]
        simp [eq_comm]
      · rw [if_neg (by simpa using hstart), List.cons_inj_right, ih]
        simp [hstart]

theorem replaceFirst_append {pattern replacement first rest : List Char}
    (h : startsIn pattern first rest = false) :
    replaceFirst pattern replacement (first ++ rest) =
      first ++ replaceFirst pattern replacement rest := by
  induction first with
  | nil => rfl
  | cons c first ih =>
      simp only [startsIn, Bool.or_eq_false_iff] at h
      simp [replaceFirst, h.1, ih h.2]

theorem replaceFirst_pattern {pattern : List Char} (hne : pattern ≠ [])
    (replacement rest : List Char) :
    replaceFirst pattern replacement (pattern ++ rest) =
      replacement ++ rest := by
  cases pattern with
  | nil => exact absurd rfl hne
  | cons c pattern => simp [replaceFirst]

theorem infix_append_iff_of_startsIn {pattern first rest : List Char}
    (h : startsIn pattern first rest = false) :
    pattern <:+: first ++ rest ↔ pattern <:+: rest := by
  induction first with
  | nil => rfl
  | cons c first ih =>
      simp only [startsIn, Bool.or_eq_false_iff] at h
      have hstart : ¬ pattern <+: c :: (first ++ rest) := by
        rw [← List.isPrefixOf_iff_prefix, h.1]
        simp
      rw [List.cons_append, List.infix_cons_iff, ih h.2]
      simp [hstart]

/-! ## The two builders -/

/-- What a builder puts behind the base. -/
def urlTail (path : String) (query : Option String) : String :=
  let path := if startsWith path "/" then path else s!"/{path}"
  match query with
  | some q => if !q.toList.isEmpty then s!"{path}?{q}" else path
  | none => path

theorem buildUpstreamUrl_toList (base path : String) (query : Option String) :
    (buildUpstreamUrl base path query).toList =
      (trimEndMatches base '/').toList ++ (urlTail path query).toList := by
  cases query with
  | none => simp [buildUpstreamUrl, urlTail, toString]
  | some q =>
      by_cases h : q.toList.isEmpty = true
      · simp [buildUpstreamUrl, urlTail, h, toString]
      · simp [buildUpstreamUrl, urlTail, h, toString]

def wsBase (base : List Char) : List Char :=
  replaceFirst "http://".toList "ws://".toList
    (replaceFirst "https://".toList "wss://".toList base)

theorem buildWsUrl_toList (base path : String) (query : Option String) :
    (buildWsUrl base path query).toList =
      wsBase (trimEndMatches base '/').toList ++
        (urlTail path query).toList := by
  cases query with
  | none => simp [buildWsUrl, urlTail, wsBase, replacen1, toString]
  | some q =>
      by_cases h : q.toList.isEmpty = true
      · simp [buildWsUrl, urlTail, wsBase, replacen1, h, toString]
      · simp [buildWsUrl, urlTail, wsBase, replacen1, h, toString]

theorem wsBase_http (rest : List Char) :
    wsBase ("http://".toList ++ rest) =
      "ws://".toList ++
        replaceFirst "https://".toList "wss://".toList rest := by
  rw [wsBase, replaceFirst_append rfl, replaceFirst_pattern (by decide)]

theorem wsBase_https (rest : List Char) :
    wsBase ("https://".toList ++ rest) =
      "wss://".toList ++
        replaceFirst "http://".toList "ws://".toList rest := by
  rw [wsBase, replaceFirst_pattern (by decide), replaceFirst_append rfl]

/-! ## Agreement -/

/-- The URL with its leading scheme changed from `http` to `ws`, or from
`https` to `wss`. -/
def withWsScheme (url : String) : String :=
  match stripPrefix? url "https://" with
  | some rest => s!"wss://{rest}"
  | none =>
      match stripPrefix? url "http://" with
      | some rest => s!"ws://{rest}"
      | none => url

theorem withWsScheme_http (rest : List Char) :
    (withWsScheme (String.ofList ("http://".toList ++ rest))).toList =
      "ws://".toList ++ rest := by
  simp [withWsScheme, stripPrefix?, startsWith, toString]

theorem withWsScheme_https (rest : List Char) :
    (withWsScheme (String.ofList ("https://".toList ++ rest))).toList =
      "wss://".toList ++ rest := by
  simp [withWsScheme, stripPrefix?, startsWith, toString]

/-- A base of the scheme with something besides slashes behind it. -/
def HasHost (scheme base : String) : Prop :=
  ∃ rest, base = scheme ++ rest ∧ ∃ c ∈ rest.toList, c ≠ '/'

/-- The mark of the scheme that the base does not begin with. -/
def otherScheme (base : String) : String :=
  if startsWith base "https://" then "http://" else "https://"

theorem HasHost.trimmed {scheme base : String} (h : HasHost scheme base) :
    ∃ kept, (trimEndMatches base '/').toList = scheme.toList ++ kept := by
  obtain ⟨rest, rfl, hsolid⟩ := h
  obtain ⟨kept, _, _, _, htrim⟩ :=
    trimEndMatches_append scheme.toList hsolid
  refine ⟨kept, ?_⟩
  rw [← String.toList_append, String.ofList_toList] at htrim
  rw [htrim, String.toList_ofList]

/-- One scheme of the two, with the mark that the other replacement is
after. -/
private theorem agree_iff {base scheme ws other otherWs : String}
    {kept : List Char} (path : String) (query : Option String)
    (htrim : (trimEndMatches base '/').toList = scheme.toList ++ kept)
    (hbase : wsBase (scheme.toList ++ kept) =
      ws.toList ++ replaceFirst other.toList otherWs.toList kept)
    (hscheme : ∀ rest,
      (withWsScheme (String.ofList (scheme.toList ++ rest))).toList =
        ws.toList ++ rest)
    (hne : other.toList ≠ otherWs.toList)
    (hstart : startsIn other.toList scheme.toList kept = false) :
    buildWsUrl base path query =
        withWsScheme (buildUpstreamUrl base path query) ↔
      ¬ other.toList <:+: (trimEndMatches base '/').toList := by
  have hurl : buildUpstreamUrl base path query =
      String.ofList (scheme.toList ++ (kept ++ (urlTail path query).toList)) := by
    rw [← String.toList_inj, buildUpstreamUrl_toList, htrim,
      String.toList_ofList, List.append_assoc]
  have hws : (buildWsUrl base path query).toList =
      ws.toList ++ (replaceFirst other.toList otherWs.toList kept ++
        (urlTail path query).toList) := by
    rw [buildWsUrl_toList, htrim, hbase, List.append_assoc]
  rw [← String.toList_inj, hws, hurl, hscheme, List.append_right_inj,
    List.append_left_inj, replaceFirst_eq_self_iff, htrim,
    infix_append_iff_of_startsIn hstart, or_iff_right hne]

/-- The two URLs differ in nothing but the scheme exactly when the trimmed
base holds no mark of the other scheme. -/
theorem buildWsUrl_eq_withWsScheme_iff {base : String}
    (hbase : HasHost "http://" base ∨ HasHost "https://" base)
    (path : String) (query : Option String) :
    buildWsUrl base path query =
        withWsScheme (buildUpstreamUrl base path query) ↔
      ¬ (otherScheme base).toList <:+: (trimEndMatches base '/').toList := by
  cases hbase with
  | inl hhttp =>
      obtain ⟨kept, htrim⟩ := hhttp.trimmed
      have hother : otherScheme base = "https://" := by
        obtain ⟨rest, rfl, _⟩ := hhttp
        simp [otherScheme, startsWith]
      rw [hother]
      exact agree_iff path query htrim (wsBase_http kept) withWsScheme_http
        (by decide) rfl
  | inr hhttps =>
      obtain ⟨kept, htrim⟩ := hhttps.trimmed
      have hother : otherScheme base = "http://" := by
        obtain ⟨rest, rfl, _⟩ := hhttps
        simp [otherScheme, startsWith]
      rw [hother]
      exact agree_iff path query htrim (wsBase_https kept) withWsScheme_https
        (by decide) rfl

/-- A plain host agrees. -/
theorem buildWsUrl_agrees_at_host :
    HasHost "https://" "https://host:9090/" ∧
      buildWsUrl "https://host:9090/" "ws" (some "token=abc") =
        withWsScheme
          (buildUpstreamUrl "https://host:9090/" "ws" (some "token=abc")) := by
  have hhost : HasHost "https://" "https://host:9090/" :=
    ⟨"host:9090/", by decide, 'h', by decide, by decide⟩
  exact ⟨hhost, (buildWsUrl_eq_withWsScheme_iff (.inr hhost) _ _).mpr
    (by decide)⟩

/-- A URL carried in the base is changed as well. -/
theorem buildWsUrl_changes_embedded_url :
    HasHost "http://" "http://h?u=https://x" ∧
      buildWsUrl "http://h?u=https://x" "/p" none = "ws://h?u=wss://x/p" ∧
      buildWsUrl "http://h?u=https://x" "/p" none ≠
        withWsScheme (buildUpstreamUrl "http://h?u=https://x" "/p" none) :=
  ⟨⟨"h?u=https://x", by decide, 'h', by decide, by decide⟩, by decide,
    by decide⟩

end ServiceRouter
