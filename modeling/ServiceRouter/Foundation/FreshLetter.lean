import Mathlib.Data.List.Nodup

/-!
# Words that few words begin

Over an alphabet with more letters than there are words in a list, every word
has a continuation by one letter that no word of the list starts with.
-/

namespace ServiceRouter.Foundation

variable {α : Type}

/-- One of the letters does not follow `word` in any of the words. -/
theorem exists_fresh_letter [DecidableEq α] {letters : List α}
    {words : List (List α)} (hnodup : letters.Nodup)
    (hmore : words.length < letters.length) (word : List α) :
    ∃ c ∈ letters, ∀ w ∈ words, ¬ word ++ [c] <+: w := by
  by_contra hall
  push Not at hall
  have hfollow : letters ⊆ words.filterMap (·[word.length]?) := by
    intro c hc
    obtain ⟨w, hw, tail, rfl⟩ := hall c hc
    refine List.mem_filterMap.mpr ⟨_, hw, ?_⟩
    simp
  have hlength := hnodup.length_le_of_subset hfollow
  have hfew := List.length_filterMap_le (·[word.length]?) words
  omega

/-- The characters below the surrogates. -/
def basicChars : List Char := (List.range 55296).map Char.ofNat

theorem length_basicChars : basicChars.length = 55296 := by
  simp [basicChars]

theorem nodup_basicChars : basicChars.Nodup := by
  refine List.Nodup.map_on ?_ List.nodup_range
  intro m hm n hn hsame
  have hvalid {k : Nat} (hk : k ∈ List.range 55296) : k.isValidChar :=
    .inl (List.mem_range.mp hk)
  have hnumber {k : Nat} (hk : k ∈ List.range 55296) :
      (Char.ofNat k).toNat = k := by
    rw [Char.ofNat, dif_pos (hvalid hk)]
    rfl
  rw [← hnumber hm, hsame, hnumber hn]

end ServiceRouter.Foundation
