import Mathlib.Data.List.Sort
import Mathlib.Data.List.FinRange
import Mathlib.Data.Prod.Lex

/-!
# Stable sorting by a key and first-match selection

`sortByKey` is a stable sort: elements with equal keys keep their order.
`stableOrder` recovers where every element of the sorted list came from, by
tagging each element with its position before sorting.  The last section
combines the two with a first-match scan: the scan over the sorted list stops
at the element that is least for the lexicographic order on (key, position).
-/

namespace ServiceRouter.Foundation

variable {α β κ : Type*} [LinearOrder κ]

/-! ## Stable sort -/

def sortByKey (key : α → κ) (items : List α) : List α :=
  items.insertionSort fun a b => key a ≤ key b

@[simp] theorem length_sortByKey (key : α → κ) (items : List α) :
    (sortByKey key items).length = items.length :=
  List.length_insertionSort _ _

@[simp] theorem mem_sortByKey {key : α → κ} {items : List α} {a : α} :
    a ∈ sortByKey key items ↔ a ∈ items :=
  List.mem_insertionSort _

theorem map_sortByKey (key : β → κ) (f : α → β) (items : List α) :
    (sortByKey (fun a => key (f a)) items).map f =
      sortByKey key (items.map f) :=
  List.map_insertionSort _ _ f items fun _ _ _ _ => Iff.rfl

/-- Lists with the same keys at the same places are told apart by their
sorted forms. -/
theorem sortByKey_inj {key : α → κ} {xs ys : List α}
    (hkeys : xs.map key = ys.map key)
    (h : sortByKey key xs = sortByKey key ys) : xs = ys := by
  have hlength : xs.length = ys.length := by
    simpa using congrArg List.length hkeys
  have hzip : (xs.zip ys).map (fun z => key z.1) =
      (xs.zip ys).map fun z => key z.2 := by
    calc (xs.zip ys).map (fun z => key z.1)
        = ((xs.zip ys).map Prod.fst).map key := by rw [List.map_map]; rfl
      _ = xs.map key := by rw [List.map_fst_zip hlength.le]
      _ = ys.map key := hkeys
      _ = ((xs.zip ys).map Prod.snd).map key := by
          rw [List.map_snd_zip hlength.ge]
      _ = (xs.zip ys).map fun z => key z.2 := by rw [List.map_map]; rfl
  have hkey := List.map_inj_left.mp hzip
  have hfst : (sortByKey (fun z => key z.1) (xs.zip ys)).map Prod.fst =
      sortByKey key xs := by
    rw [map_sortByKey, List.map_fst_zip hlength.le]
  have hsnd : (sortByKey (fun z => key z.1) (xs.zip ys)).map Prod.snd =
      sortByKey key ys := by
    have hmap := List.map_insertionSort
      (fun z z' : α × α => key z.1 ≤ key z'.1) (fun a b => key a ≤ key b)
      Prod.snd (xs.zip ys) fun z hz z' hz' => by rw [hkey z hz, hkey z' hz']
    rw [List.map_snd_zip hlength.ge] at hmap
    exact hmap
  have hpair : ∀ z ∈ xs.zip ys, z.1 = z.2 := by
    have hsorted := List.map_inj_left.mp (hfst.trans (h.trans hsnd.symm))
    exact fun z hz => hsorted z (mem_sortByKey.mpr hz)
  calc xs = (xs.zip ys).map Prod.fst := (List.map_fst_zip hlength.le).symm
    _ = (xs.zip ys).map Prod.snd := List.map_congr_left hpair
    _ = ys := List.map_snd_zip hlength.ge

/-- Sorting elements by themselves forgets the order they came in. -/
theorem sortByKey_id_eq_of_perm {xs ys : List κ} (h : xs.Perm ys) :
    sortByKey id xs = sortByKey id ys := by
  apply List.Perm.eq_of_pairwise' (r := (· ≤ ·))
  · exact List.pairwise_insertionSort _ xs
  · exact List.pairwise_insertionSort _ ys
  · exact (List.perm_insertionSort _ xs).trans
      (h.trans (List.perm_insertionSort _ ys).symm)

def StableBefore (key : α → κ) (before : α → α → Prop) (a b : α) : Prop :=
  key a ≤ key b ∧ (key b ≤ key a → before a b)

private theorem pairwise_orderedInsert {key : α → κ}
    {before : α → α → Prop} {a : α} {sorted : List α}
    (hsorted : sorted.Pairwise (StableBefore key before))
    (ha : ∀ b ∈ sorted, before a b) :
    (sorted.orderedInsert (fun a b => key a ≤ key b) a).Pairwise
      (StableBefore key before) := by
  induction sorted with
  | nil => simp
  | cons b sorted ih =>
      obtain ⟨hb, htail⟩ := List.pairwise_cons.mp hsorted
      by_cases hab : key a ≤ key b
      · rw [List.orderedInsert_cons, if_pos hab]
        refine List.pairwise_cons.mpr ⟨?_, hsorted⟩
        intro c hc
        refine ⟨?_, fun _ => ha c hc⟩
        rcases List.mem_cons.mp hc with rfl | hc
        · exact hab
        · exact hab.trans (hb c hc).1
      · rw [List.orderedInsert_cons, if_neg hab]
        refine List.pairwise_cons.mpr ⟨?_, ih htail fun c hc =>
          ha c (List.mem_cons_of_mem _ hc)⟩
        intro c hc
        rcases (List.mem_orderedInsert _).mp hc with rfl | hc
        · exact ⟨(not_le.mp hab).le, fun hle => absurd hle hab⟩
        · exact hb c hc

/-- A stable sort orders by key and keeps the old order between equal keys. -/
theorem pairwise_sortByKey (key : α → κ) {before : α → α → Prop}
    {items : List α} (hitems : items.Pairwise before) :
    (sortByKey key items).Pairwise (StableBefore key before) := by
  induction items with
  | nil => exact List.Pairwise.nil
  | cons a items ih =>
      obtain ⟨ha, htail⟩ := List.pairwise_cons.mp hitems
      refine pairwise_orderedInsert (ih htail) fun b hb => ha b ?_
      exact mem_sortByKey.mp hb

/-! ## Where the sorted elements came from -/

/-- The positions of `items` in the order the stable sort leaves them. -/
def stableOrder (key : α → κ) (items : List α) : List (Fin items.length) :=
  let tagged := (List.finRange items.length).map fun i => (items.get i, i)
  (sortByKey (fun entry => key entry.1) tagged).map Prod.snd

theorem stableOrder_eq_sort_positions (key : α → κ) (items : List α) :
    stableOrder key items =
      sortByKey (fun i => key (items.get i)) (List.finRange items.length) := by
  have htag := map_sortByKey (fun entry : α × Fin items.length => key entry.1)
    (fun i => (items.get i, i)) (List.finRange items.length)
  simp only [stableOrder]
  rw [← htag, List.map_map]
  exact List.map_id _

theorem sortByKey_eq_map_stableOrder (key : α → κ) (items : List α) :
    sortByKey key items = (stableOrder key items).map items.get := by
  rw [stableOrder_eq_sort_positions, map_sortByKey, List.map_get_finRange]

@[simp] theorem length_stableOrder (key : α → κ) (items : List α) :
    (stableOrder key items).length = items.length := by
  simp [stableOrder]

@[simp] theorem mem_stableOrder (key : α → κ) (items : List α)
    (i : Fin items.length) : i ∈ stableOrder key items := by
  simp [stableOrder_eq_sort_positions]

/-- Position `i` is evaluated before position `j`: by key, then by position. -/
def PositionBefore (key : α → κ) (items : List α) (i j : Fin items.length) :
    Prop :=
  toLex (key (items.get i), i) < toLex (key (items.get j), j)

instance (key : α → κ) (items : List α) (i j : Fin items.length) :
    Decidable (PositionBefore key items i j) :=
  inferInstanceAs (Decidable (toLex _ < toLex _))

theorem positionBefore_iff {key : α → κ} {items : List α}
    {i j : Fin items.length} :
    PositionBefore key items i j ↔
      key (items.get i) < key (items.get j) ∨
        key (items.get i) = key (items.get j) ∧ i < j := by
  simp [PositionBefore, Prod.Lex.lt_iff]

theorem PositionBefore.asymm {key : α → κ} {items : List α}
    {i j : Fin items.length} (h : PositionBefore key items i j) :
    ¬ PositionBefore key items j i :=
  lt_asymm h

theorem positionBefore_of_not {key : α → κ} {items : List α}
    {i j : Fin items.length} (h : ¬ PositionBefore key items i j)
    (hne : i ≠ j) : PositionBefore key items j i := by
  refine lt_of_le_of_ne (not_lt.mp h) fun heq => hne ?_
  exact (Prod.mk.inj (toLex.injective heq)).2.symm

theorem positionBefore_of_stableBefore {key : α → κ} {items : List α}
    {i j : Fin items.length}
    (h : StableBefore (fun i => key (items.get i)) (· < ·) i j) :
    PositionBefore key items i j := by
  obtain ⟨hle, hstable⟩ := h
  rw [positionBefore_iff]
  rcases hle.lt_or_eq with hlt | heq
  · exact .inl hlt
  · exact .inr ⟨heq, hstable heq.ge⟩

theorem pairwise_stableOrder (key : α → κ) (items : List α) :
    (stableOrder key items).Pairwise (PositionBefore key items) := by
  rw [stableOrder_eq_sort_positions]
  exact (pairwise_sortByKey (fun i => key (items.get i))
    (List.pairwise_lt_finRange items.length)).imp positionBefore_of_stableBefore

/-- A sort of the items that satisfy `p` walks through their positions. -/
theorem exists_order_of_filter (key : α → κ) (p : α → Bool) (items : List α) :
    ∃ order : List (Fin items.length),
      sortByKey key (items.filter p) = order.map items.get ∧
      order.Pairwise (PositionBefore key items) ∧
      ∀ i, i ∈ order ↔ p (items.get i) = true := by
  have hitems : items.filter p =
      ((List.finRange items.length).filter fun i =>
        p (items.get i)).map items.get := by
    conv_lhs => rw [← List.map_get_finRange items]
    rw [List.filter_map]
    rfl
  refine ⟨sortByKey (fun i => key (items.get i))
    ((List.finRange items.length).filter fun i => p (items.get i)),
    ?_, ?_, ?_⟩
  · rw [hitems, map_sortByKey]
  · exact (pairwise_sortByKey (fun i => key (items.get i))
      ((List.pairwise_lt_finRange items.length).filter _)).imp
        positionBefore_of_stableBefore
  · simp

/-! ## First match in the sorted list -/

theorem find?_eq_some_iff_least {before : α → α → Prop}
    (hasymm : ∀ a b, before a b → ¬ before b a) {p : α → Bool}
    {items : List α} (hitems : items.Pairwise before) (a : α) :
    items.find? p = some a ↔
      a ∈ items ∧ p a = true ∧
        ∀ b ∈ items, p b = true → b = a ∨ before a b := by
  induction items with
  | nil => simp
  | cons c items ih =>
      obtain ⟨hc, htail⟩ := List.pairwise_cons.mp hitems
      cases hpc : p c with
      | true =>
          rw [List.find?_cons_of_pos hpc, Option.some.injEq]
          constructor
          · rintro rfl
            refine ⟨List.mem_cons_self, hpc, fun b hb _ => ?_⟩
            rcases List.mem_cons.mp hb with rfl | hb
            · exact .inl rfl
            · exact .inr (hc b hb)
          · rintro ⟨hmem, -, hleast⟩
            rcases List.mem_cons.mp hmem with rfl | hmem
            · rfl
            · rcases hleast c List.mem_cons_self hpc with rfl | hbefore
              · rfl
              · exact absurd (hc a hmem) (hasymm _ _ hbefore)
      | false =>
          rw [List.find?_cons_of_neg (by simp [hpc]), ih htail]
          constructor
          · rintro ⟨hmem, hpa, hleast⟩
            refine ⟨List.mem_cons_of_mem _ hmem, hpa, fun b hb hpb => ?_⟩
            rcases List.mem_cons.mp hb with rfl | hb
            · simp [hpc] at hpb
            · exact hleast b hb hpb
          · rintro ⟨hmem, hpa, hleast⟩
            rcases List.mem_cons.mp hmem with rfl | hmem
            · simp [hpc] at hpa
            · exact ⟨hmem, hpa, fun b hb =>
                hleast b (List.mem_cons_of_mem _ hb)⟩

/-- `k` satisfies `p` and no satisfying position is evaluated before it. -/
def SelectedAt (key : α → κ) (p : α → Bool) (items : List α)
    (k : Fin items.length) : Prop :=
  p (items.get k) = true ∧
    ∀ j, p (items.get j) = true → ¬ PositionBefore key items j k

theorem find?_stableOrder_eq_some_iff (key : α → κ) (p : α → Bool)
    (items : List α) (k : Fin items.length) :
    ((stableOrder key items).find? fun i => p (items.get i)) = some k ↔
      SelectedAt key p items k := by
  rw [find?_eq_some_iff_least (fun _ _ h => h.asymm)
    (pairwise_stableOrder key items)]
  constructor
  · rintro ⟨-, hk, hleast⟩
    refine ⟨hk, fun j hj hbefore => ?_⟩
    rcases hleast j (mem_stableOrder key items j) hj with rfl | hkj
    · exact hbefore.asymm hbefore
    · exact hbefore.asymm hkj
  · rintro ⟨hk, hleast⟩
    refine ⟨mem_stableOrder key items k, hk, fun j _ hj => ?_⟩
    by_cases hjk : j = k
    · exact .inl hjk
    · exact .inr (positionBefore_of_not (hleast j hj) hjk)

/-- Two selections agree along a correspondence that keeps the key and the
predicate, and the order of matching positions with equal keys. -/
theorem SelectedAt.corresponds {key : α → κ} {p : α → Bool} {xs ys : List α}
    (same : Fin xs.length → Fin ys.length → Prop)
    {i : Fin xs.length} {j : Fin ys.length}
    (hi : SelectedAt key p xs i) (hj : SelectedAt key p ys j)
    (hleft : ∃ j', same i j') (hright : ∃ i', same i' j)
    (hkeeps : ∀ i j, same i j →
      key (xs.get i) = key (ys.get j) ∧ p (xs.get i) = p (ys.get j))
    (hties : ∀ i i' j j', same i j → same i' j' →
      p (xs.get i) = true → p (xs.get i') = true →
      key (xs.get i) = key (xs.get i') → i < i' → j < j') :
    same i j := by
  obtain ⟨j', hij'⟩ := hleft
  obtain ⟨i', hi'j⟩ := hright
  obtain ⟨hkey, hp⟩ := hkeeps i j' hij'
  obtain ⟨hkey', hp'⟩ := hkeeps i' j hi'j
  by_cases heq : i' = i
  · exact heq ▸ hi'j
  · have hmatch' : p (xs.get i') = true := hp'.trans hj.1
    have hbefore : PositionBefore key xs i i' :=
      positionBefore_of_not (hi.2 i' hmatch') heq
    have hnot : ¬ PositionBefore key ys j' j := hj.2 j' (hp.symm.trans hi.1)
    rw [positionBefore_iff] at hbefore hnot
    rw [← hkey, ← hkey'] at hnot
    rcases hbefore with hlt | ⟨hsame, hlt⟩
    · exact absurd (.inl hlt) hnot
    · have := hties i i' j' j hij' hi'j hi.1 hmatch' hsame hlt
      exact absurd (.inr ⟨hsame, this⟩) hnot

/-! ## Removing one element -/

def keptPosition (items : List α) (i : Fin items.length)
    (k : Fin (items.eraseIdx i).length) : Fin items.length :=
  have hlength := List.length_eraseIdx_of_lt i.isLt
  if h : k.val < i.val then ⟨k.val, h.trans i.isLt⟩
  else ⟨k.val + 1, by omega⟩

theorem get_keptPosition (items : List α) (i : Fin items.length)
    (k : Fin (items.eraseIdx i).length) :
    items.get (keptPosition items i k) = (items.eraseIdx i).get k := by
  simp only [keptPosition, List.get_eq_getElem, List.getElem_eraseIdx]
  split <;> rfl

theorem keptPosition_ne (items : List α) (i : Fin items.length)
    (k : Fin (items.eraseIdx i).length) : keptPosition items i k ≠ i := by
  intro heq
  have hval := congrArg Fin.val heq
  simp only [keptPosition] at hval
  split at hval <;> simp only at hval <;> omega

theorem keptPosition_lt_iff (items : List α) (i : Fin items.length)
    (j k : Fin (items.eraseIdx i).length) :
    keptPosition items i j < keptPosition items i k ↔ j < k := by
  simp only [keptPosition, Fin.lt_def]
  split <;> split <;> simp only <;> omega

theorem exists_keptPosition (items : List α) {i j : Fin items.length}
    (hne : j ≠ i) : ∃ k, keptPosition items i k = j := by
  have hlength := List.length_eraseIdx_of_lt i.isLt
  rcases Nat.lt_or_gt_of_ne fun h => hne (Fin.ext h) with hlt | hgt
  · refine ⟨⟨j.val, by omega⟩, ?_⟩
    simp [keptPosition, hlt]
  · refine ⟨⟨j.val - 1, by omega⟩, Fin.ext ?_⟩
    have hnot : ¬ j.val - 1 < i.val := by omega
    simp only [keptPosition, dif_neg hnot]
    omega

theorem positionBefore_keptPosition (key : α → κ) (items : List α)
    (i : Fin items.length) (j k : Fin (items.eraseIdx i).length) :
    PositionBefore key items (keptPosition items i j) (keptPosition items i k) ↔
      PositionBefore key (items.eraseIdx i) j k := by
  simp only [positionBefore_iff, get_keptPosition, keptPosition_lt_iff]

/-- An element is never selected exactly if removing it changes nothing. -/
theorem find?_eraseIdx_eq_iff (key : α → κ) (p : α → Bool) (items : List α)
    (i : Fin items.length) :
    ((stableOrder key (items.eraseIdx i)).find? fun k =>
        p ((items.eraseIdx i).get k)).map (keptPosition items i) =
      ((stableOrder key items).find? fun k => p (items.get k)) ↔
      ¬ SelectedAt key p items i := by
  constructor
  · intro heq hselected
    rw [(find?_stableOrder_eq_some_iff key p items i).mpr hselected] at heq
    obtain ⟨k, -, hk⟩ := Option.map_eq_some_iff.mp heq
    exact keptPosition_ne items i k hk
  · intro hnot
    cases hfind : (stableOrder key items).find? fun k => p (items.get k) with
    | none =>
        simp only [Option.map_eq_none_iff, List.find?_eq_none,
          mem_stableOrder, forall_const] at hfind ⊢
        intro k
        rw [← get_keptPosition]
        exact hfind _
    | some j =>
        have hj := (find?_stableOrder_eq_some_iff key p items j).mp hfind
        have hne : j ≠ i := by
          rintro rfl
          exact hnot hj
        obtain ⟨k, rfl⟩ := exists_keptPosition items hne
        refine Option.map_eq_some_iff.mpr ⟨k, ?_, rfl⟩
        rw [find?_stableOrder_eq_some_iff]
        refine ⟨get_keptPosition items i k ▸ hj.1, fun l hl hbefore => ?_⟩
        exact hj.2 _ (get_keptPosition items i l ▸ hl)
          ((positionBefore_keptPosition key items i l k).mpr hbefore)

end ServiceRouter.Foundation
