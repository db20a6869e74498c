import ServiceRouter.Platform

/-!
# Hop-by-hop headers

The headers that end at a proxy, and those a route may not configure on its
responses.
-/

namespace ServiceRouter

open Foundation

def hopByHopNames : List String :=
  ["connection", "keep-alive", "proxy-authenticate", "proxy-authorization",
    "te", "trailers", "transfer-encoding", "upgrade"]

def isHopByHop (P : Platform) (name : String) : Bool :=
  hopByHopNames.contains (P.caseMapping.toLowercase name)

def isForbiddenConfigResponseHeader (P : Platform) (name : String) : Bool :=
  isHopByHop P name || eqIgnoreAsciiCase name "content-length"

/-- Dropping the hop-by-hop headers leaves the values of every other name. -/
theorem getAll_filter_hopByHop (P : Platform) (headers : HeaderMap)
    (name : HeaderName) :
    (⟨headers.pairs.filter fun entry => !isHopByHop P entry.1.asStr⟩ :
        HeaderMap).getAll name =
      if isHopByHop P name.asStr then [] else headers.getAll name := by
  simp only [MultiMap.getAll, List.filter_filter]
  cases hname : isHopByHop P name.asStr with
  | true =>
      have hnone : (headers.pairs.filter fun entry =>
          decide (entry.1 = name) && !isHopByHop P entry.1.asStr) = [] := by
        refine List.filter_eq_nil_iff.mpr fun entry _ hentry => ?_
        simp only [Bool.and_eq_true, decide_eq_true_eq] at hentry
        simp [hentry.1, hname] at hentry
      simp [hnone]
  | false =>
      have hall : (fun entry : HeaderName × HeaderValue =>
          decide (entry.1 = name) && !isHopByHop P entry.1.asStr) =
          fun entry => decide (entry.1 = name) := by
        funext entry
        by_cases h : entry.1 = name
        · simp [h, hname]
        · simp [h]
      simp [hall]

end ServiceRouter
