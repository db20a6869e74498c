import Mathlib.Algebra.GroupWithZero.Nat
import ServiceRouter.Foundation.HashMap

/-!
# Counters by key

Counters that live in a hash map and wrap at a bound.  Incrementing one adds
one to the sum of all of them exactly if that counter does not wrap.
-/

namespace ServiceRouter.Foundation.Counters

variable {κ : Type} [DecidableEq κ]

def total (counters : HashMap κ Nat) : Nat :=
  (counters.entries.map Sigma.snd).sum

/-- The next value of a counter of `width` bits; a new one starts at one. -/
def next (width : Nat) : Option Nat → Nat
  | some c => (c + 1) % 2 ^ width
  | none => 1

def increment (width : Nat) (counters : HashMap κ Nat) (k : κ) :
    HashMap κ Nat :=
  counters.insert k (next width (counters.lookup k))

/-- The counter of a key can be incremented without wrapping. -/
def Fits (width : Nat) (counters : HashMap κ Nat) (k : κ) : Prop :=
  ∀ c, counters.lookup k = some c → c + 1 < 2 ^ width

private theorem sum_kerase (k : κ) (entries : List (Sigma fun _ : κ => Nat)) :
    ((entries.kerase k).map Sigma.snd).sum + (entries.dlookup k).getD 0 =
      (entries.map Sigma.snd).sum := by
  induction entries with
  | nil => simp
  | cons entry entries ih =>
      obtain ⟨l, c⟩ := entry
      by_cases h : k = l
      · subst h
        have hkerase : List.kerase k (⟨k, c⟩ :: entries) = entries :=
          List.kerase_cons_eq rfl
        rw [hkerase, List.dlookup_cons_eq, Option.getD_some, List.map_cons,
          List.sum_cons, Nat.add_comm]
      · rw [List.kerase_cons_ne h, List.dlookup_cons_ne _ _ h, List.map_cons,
          List.map_cons, List.sum_cons, List.sum_cons, ← ih]
        omega

theorem total_insert (counters : HashMap κ Nat) (k : κ) (c : Nat) :
    total (counters.insert k c) + (counters.lookup k).getD 0 =
      total counters + c := by
  have herase := sum_kerase k counters.entries
  have hinsert : total (counters.insert k c) =
      c + ((counters.entries.kerase k).map Sigma.snd).sum := rfl
  have hlookup : counters.lookup k = counters.entries.dlookup k := rfl
  rw [hinsert, hlookup, total, ← herase]
  omega

theorem total_increment_iff {width : Nat} (counters : HashMap κ Nat)
    (k : κ) :
    total (increment width counters k) = total counters + 1 ↔
      Fits width counters k := by
  have hsum := total_insert counters k (next width (counters.lookup k))
  unfold increment Fits
  cases hlookup : counters.lookup k with
  | none =>
      rw [hlookup, Option.getD_none, Nat.add_zero] at hsum
      constructor
      · intro _ c hc
        cases hc
      · intro _
        exact hsum
  | some c =>
      rw [hlookup, Option.getD_some] at hsum
      have hlt : (c + 1) % 2 ^ width < 2 ^ width :=
        Nat.mod_lt _ (Nat.two_pow_pos width)
      constructor
      · intro htotal d hd
        cases hd
        rw [htotal, next] at hsum
        omega
      · intro hfits
        have hmod : next width (some c) = c + 1 :=
          Nat.mod_eq_of_lt (hfits c rfl)
        rw [hmod] at hsum ⊢
        omega

end ServiceRouter.Foundation.Counters
