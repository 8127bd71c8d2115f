import Mathlib.Data.Set.Card

/-!
# Ranking by a key

In a list of decreasing keys the place of an entry is the number of those with a
greater key.  The first entries of a map are known by their order alone, however
they have been found.
-/

namespace Ranking

variable {α κ : Type*} [LinearOrder κ] (key : α → κ)

/-- How many entries have a greater key than `a`. -/
def ahead (l : List α) (a : α) : ℕ := l.countP fun b => key a < key b

variable {key} {l : List α} {a : α} {n : ℕ}

theorem ahead_cons (b : α) (l : List α) (a : α) :
    ahead key (b :: l) a = ahead key l a + if key a < key b then 1 else 0 := by
  unfold ahead
  rw [List.countP_cons]
  simp only [decide_eq_true_eq]

variable (key) in
/-- In a list of decreasing keys, an entry stands behind those with a greater
key. -/
theorem getElem?_of_pairwise (h : l.Pairwise fun a b => key b < key a) :
    l[n]? = some a ↔ a ∈ l ∧ ahead key l a = n := by
  induction l generalizing n with
  | nil => simp
  | cons b l ih =>
      obtain ⟨hhead, htail⟩ := List.pairwise_cons.mp h
      have hb : ahead key (b :: l) b = 0 := by
        unfold ahead
        rw [List.countP_eq_zero]
        intro c hc
        rcases List.mem_cons.mp hc with rfl | hmem
        · simp
        · simpa using (hhead c hmem).le
      have hmas : ∀ c ∈ l, ahead key (b :: l) c = ahead key l c + 1 := by
        intro c hc
        rw [ahead_cons, if_pos (hhead c hc)]
      have hbl : b ∉ l := fun hmem => lt_irrefl _ (hhead b hmem)
      cases n with
      | zero =>
          rw [List.getElem?_cons_zero, Option.some.injEq]
          constructor
          · rintro rfl
            exact ⟨List.mem_cons_self, hb⟩
          · rintro ⟨hmem, hcero⟩
            rcases List.mem_cons.mp hmem with rfl | hl
            · rfl
            · rw [hmas a hl] at hcero
              cases hcero
      | succ n =>
          rw [List.getElem?_cons_succ, ih htail]
          constructor
          · rintro ⟨hmem, rfl⟩
            exact ⟨List.mem_cons_of_mem b hmem, hmas a hmem⟩
          · rintro ⟨hmem, hn⟩
            rcases List.mem_cons.mp hmem with rfl | hl
            · rw [hb] at hn
              cases hn
            · rw [hmas a hl] at hn
              exact ⟨hl, Nat.succ.inj hn⟩

/-! ## Maps -/

section Maps

variable {ι ν : Type*} (rank : ι → ν → κ)

/-- The list has the entries of the map, each of them once. -/
structure Lists (l : List (ι × ν)) (f : ι → Option ν) : Prop where
  nodup : (l.map Prod.fst).Nodup
  mem : ∀ i v, (i, v) ∈ l ↔ f i = some v

/-- The indices of the entries with a greater key than that of `i`. -/
def aheadIn (f : ι → Option ν) (i : ι) : Set ι :=
  {j | ∃ u ∈ f i, ∃ v ∈ f j, rank i u < rank j v}

/-- The list has the first `n` entries of the map, in order: entries of the map
with decreasing keys, `n` at most, and one is missing only where there are `n`,
all of them ahead of it. -/
structure Top (n : ℕ) (l : List (ι × ν)) (f : ι → Option ν) : Prop where
  mem : ∀ i u, (i, u) ∈ l → f i = some u
  sorted : l.Pairwise fun p q => rank q.1 q.2 < rank p.1 p.2
  length_le : l.length ≤ n
  complete : ∀ i u, f i = some u → (i, u) ∉ l →
    l.length = n ∧ ∀ p ∈ l, rank i u < rank p.1 p.2

variable {rank} {e : List (ι × ν)} {f f' : ι → Option ν} {i : ι} {u : ν}

omit [LinearOrder κ] in
theorem lists_pair {j : ι} {v : ν} (hij : i ≠ j) (hi : f i = some u)
    (hj : f j = some v) (hno : ∀ k, k ≠ i → k ≠ j → f k = none) :
    Lists [(i, u), (j, v)] f := by
  constructor
  · simpa using hij
  · intro k w
    by_cases hki : k = i
    · subst hki
      rw [hi]
      simp [hij, eq_comm (a := w)]
    · by_cases hkj : k = j
      · subst hkj
        rw [hj]
        simp [hki, eq_comm (a := w)]
      · rw [hno k hki hkj]
        simp [hki, hkj]

theorem Lists.finite_aheadIn (h : Lists e f) (i : ι) :
    (aheadIn rank f i).Finite := by
  apply (List.finite_toSet (e.map Prod.fst)).subset
  rintro j ⟨u, -, v, hv, -⟩
  exact List.mem_map.mpr ⟨(j, v), (h.mem j v).mpr hv, rfl⟩

/-! ### The first entries -/

section Top

variable {l : List (ι × ν)} {k n : ℕ}

/-- No index has two entries in the list. -/
theorem Top.nodup (h : Top rank n l f) : (l.map Prod.fst).Nodup := by
  rw [List.Nodup, List.pairwise_map]
  refine h.sorted.imp_of_mem ?_
  rintro ⟨i, u⟩ ⟨j, v⟩ hi hj hlt rfl
  cases (h.mem i u hi).symm.trans (h.mem i v hj)
  exact lt_irrefl _ hlt

/-- Whoever is ahead of an entry of the list is in it too. -/
theorem Top.mem_of_lt {j : ι} {v : ν} (h : Top rank n l f) (hi : (i, u) ∈ l)
    (hj : f j = some v) (hlt : rank i u < rank j v) : (j, v) ∈ l := by
  by_contra hno
  exact lt_asymm hlt ((h.complete j v hj hno).2 (i, u) hi)

/-- As many are ahead of an entry of the list as the list has ahead of it. -/
theorem Top.encard_aheadIn (h : Top rank n l f) (hi : (i, u) ∈ l) :
    (aheadIn rank f i).encard = ahead (fun p => rank p.1 p.2) l (i, u) := by
  classical
  have hset : aheadIn rank f i =
      (((l.filter fun p => rank i u < rank p.1 p.2).map Prod.fst).toFinset :
        Finset ι) := by
    ext j
    simp only [List.coe_toFinset, Set.mem_ofPred_eq, List.mem_map,
      List.mem_filter, decide_eq_true_eq]
    constructor
    · rintro ⟨u', hu', v, hv, hlt⟩
      cases (h.mem i u hi).symm.trans hu'
      exact ⟨(j, v), ⟨h.mem_of_lt hi hv hlt, hlt⟩, rfl⟩
    · rintro ⟨⟨j, v⟩, ⟨hj, hlt⟩, rfl⟩
      exact ⟨u, h.mem i u hi, v, h.mem j v hj, hlt⟩
  have hnodup : ((l.filter fun p => rank i u < rank p.1 p.2).map
      Prod.fst).Nodup := h.nodup.sublist (List.filter_sublist.map Prod.fst)
  rw [hset, Set.encard_coe_eq_coe_finsetCard, List.toFinset_card_of_nodup hnodup,
    List.length_map, ahead, List.countP_eq_length_filter]

/-- An entry that is not in the list has `n` others ahead of it. -/
theorem Top.le_encard_aheadIn (h : Top rank n l f) (hi : f i = some u)
    (hno : (i, u) ∉ l) : n ≤ (aheadIn rank f i).encard := by
  classical
  obtain ⟨hlength, hall⟩ := h.complete i u hi hno
  have hsub : (((l.map Prod.fst).toFinset : Finset ι) : Set ι) ⊆
      aheadIn rank f i := by
    intro j hj
    simp only [List.coe_toFinset, Set.mem_ofPred_eq, List.mem_map] at hj
    obtain ⟨⟨j, v⟩, hmem, rfl⟩ := hj
    exact ⟨u, hi, v, h.mem j v hmem, hall _ hmem⟩
  calc
    (n : ℕ∞) = (((l.map Prod.fst).toFinset : Finset ι) : Set ι).encard := by
      rw [Set.encard_coe_eq_coe_finsetCard,
        List.toFinset_card_of_nodup h.nodup, List.length_map, hlength]
    _ ≤ (aheadIn rank f i).encard := Set.encard_le_encard hsub

/-- The place of an entry is the number of those ahead of it. -/
theorem Top.getElem? (h : Top rank n l f) :
    l[k]? = some (i, u) ↔
      k < n ∧ f i = some u ∧ (aheadIn rank f i).encard = k := by
  rw [getElem?_of_pairwise (fun p => rank p.1 p.2) h.sorted]
  constructor
  · rintro ⟨hmem, hk⟩
    refine ⟨?_, h.mem i u hmem, by rw [h.encard_aheadIn hmem, hk]⟩
    have hlt : ahead (fun p => rank p.1 p.2) l (i, u) < l.length := by
      rw [ahead, List.countP_eq_length_filter]
      refine List.length_filter_lt_length_iff_exists.mpr ⟨(i, u), hmem, ?_⟩
      simp
    exact hk ▸ hlt.trans_le h.length_le
  · rintro ⟨hk, hi, hcard⟩
    by_cases hmem : (i, u) ∈ l
    · rw [h.encard_aheadIn hmem] at hcard
      exact ⟨hmem, Nat.cast_injective hcard⟩
    · have hle := h.le_encard_aheadIn hi hmem
      rw [hcard] at hle
      exact absurd hk (not_lt.mpr (Nat.cast_le.mp hle))

end Top

/-! ### Two maps -/

/-- Who stands still while nobody falls gains no place. -/
theorem aheadIn_mono (hi : f' i = f i)
    (hup : ∀ j v, f j = some v → ∃ v', f' j = some v' ∧ rank j v ≤ rank j v') :
    aheadIn rank f i ⊆ aheadIn rank f' i := by
  rintro j ⟨u, hu, v, hv, hlt⟩
  obtain ⟨v', hv', hle⟩ := hup j v hv
  exact ⟨u, hi.trans hu, v', hv', hlt.trans_le hle⟩

/-- Who does not fall is overtaken only by those who move. -/
theorem aheadIn_subset_of_le {s : Set ι} {u' : ν} (hi : f i = some u)
    (hi' : f' i = some u') (hle : rank i u ≤ rank i u')
    (hstill : ∀ j, j ∉ s → j ≠ i → f' j = f j) :
    aheadIn rank f' i ⊆ aheadIn rank f i ∪ s := by
  rintro j ⟨x, hx, v, hv, hlt⟩
  cases hi'.symm.trans hx
  by_cases hj : j ∈ s
  · exact Or.inr hj
  · left
    have hne : j ≠ i := by
      rintro rfl
      cases hi'.symm.trans hv
      exact lt_irrefl _ hlt
    exact ⟨u, hi, v, (hstill j hj hne).symm.trans hv, hle.trans_lt hlt⟩

end Maps

end Ranking
