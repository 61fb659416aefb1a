import Mathlib

/-!
# The `k` greatest members of a finite set

A bounded window over a growing set usually keeps its greatest members:
the newest numbers of a sequence, the highest scores, the latest
timestamps. `highest k s` is that window, described by rank: a member
stays as long as fewer than `k` members are above it.

`highest_insert_highest` is what makes a window maintainable. Whoever
keeps only `highest k s` can add a member and cut back again without ever
having seen the rest of `s`.
-/

namespace AsynGyanis.Library

open List

variable {α : Type} [LinearOrder α]

variable (k : Nat) (s : Finset α)

/-- How many members of `s` are above `x`. -/
def rankIn (x : α) : Nat := (s.filter (x < ·)).card

/-- The `k` greatest members of `s`. -/
def highest : Finset α := s.filter fun x => rankIn s x < k

variable {x a : α}

theorem mem_highest {k : Nat} {s : Finset α} : x ∈ highest k s ↔ x ∈ s ∧ rankIn s x < k := by
  simp [highest]

theorem highest_subset : highest k s ⊆ s := Finset.filter_subset _ _

theorem rankIn_mono {s t : Finset α} (h : s ⊆ t) (x : α) : rankIn s x ≤ rankIn t x :=
  Finset.card_le_card (Finset.filter_subset_filter _ h)

theorem highest_of_card_le {k : Nat} {s : Finset α} (h : s.card ≤ k) : highest k s = s := by
  refine Finset.filter_true_of_mem fun x hx => ?_
  have hlt : rankIn s x < s.card := by
    refine Finset.card_lt_card (Finset.filter_ssubset.mpr ⟨x, hx, ?_⟩)
    simp
  omega

/-- A member that bounds its window bounds the whole set, and is in the
window. -/
theorem mem_highest_of_bound {k : Nat} {s : Finset α} (hk : 0 < k)
    (hx : x ∈ s) (hle : ∀ y ∈ highest k s, y ≤ x) : x ∈ highest k s ∧ ∀ y ∈ s, y ≤ x := by
  have hgreatest : s.max' ⟨x, hx⟩ ∈ highest k s := by
    refine mem_highest.mpr ⟨Finset.max'_mem s _, ?_⟩
    have hnone : s.filter (s.max' ⟨x, hx⟩ < ·) = ∅ := by
      refine Finset.filter_eq_empty_iff.mpr fun y hy hlt => ?_
      exact absurd (Finset.le_max' s y hy) (not_le_of_gt hlt)
    rw [rankIn, hnone, Finset.card_empty]
    exact hk
  have hmax : s.max' ⟨x, hx⟩ = x := le_antisymm (hle _ hgreatest) (Finset.le_max' s x hx)
  rw [hmax] at hgreatest
  refine ⟨hgreatest, fun y hy => ?_⟩
  rw [← hmax]
  exact Finset.le_max' s y hy

theorem mem_highest_of_subset {k : Nat} {s t : Finset α}
    (hsub : s ⊆ t) (hx : x ∈ s) (ht : x ∈ highest k t) : x ∈ highest k s :=
  mem_highest.mpr ⟨hx, lt_of_le_of_lt (rankIn_mono hsub x) (mem_highest.mp ht).2⟩

/-! ## Adding an extreme member -/

theorem rankIn_insert_above {s : Finset α} (ha : a ∉ s)
    (hx : x < a) : rankIn (insert a s) x = rankIn s x + 1 := by
  unfold rankIn
  rw [Finset.filter_insert, if_pos hx, Finset.card_insert_of_notMem]
  simp [ha]

theorem rankIn_insert_not_above {s : Finset α} (hx : ¬ x < a) :
    rankIn (insert a s) x = rankIn s x := by
  unfold rankIn
  rw [Finset.filter_insert, if_neg hx]

theorem highest_insert_greatest {k : Nat} {s : Finset α} (ha : ∀ x ∈ s, x < a) :
    highest (k + 1) (insert a s) = insert a (highest k s) := by
  have hnot : a ∉ s := fun h => lt_irrefl a (ha a h)
  have hrank : rankIn (insert a s) a = 0 := by
    rw [rankIn_insert_not_above (lt_irrefl a)]
    unfold rankIn
    rw [Finset.card_eq_zero, Finset.filter_eq_empty_iff]
    exact fun x hx h => lt_asymm h (ha x hx)
  ext x
  simp only [mem_highest, Finset.mem_insert]
  constructor
  · rintro ⟨rfl | hx, hlt⟩
    · exact .inl rfl
    · rw [rankIn_insert_above hnot (ha x hx)] at hlt
      exact .inr ⟨hx, by omega⟩
  rintro (rfl | ⟨hx, hlt⟩)
  · exact ⟨.inl rfl, by omega⟩
  refine ⟨.inr hx, ?_⟩
  rw [rankIn_insert_above hnot (ha x hx)]
  omega

theorem highest_insert_least {k : Nat} {s : Finset α} (ha : ∀ x ∈ s, a < x) (hk : k ≤ s.card) :
    highest k (insert a s) = highest k s := by
  have hrank : rankIn (insert a s) a = s.card := by
    rw [rankIn_insert_not_above (lt_irrefl a)]
    unfold rankIn
    rw [Finset.filter_true_of_mem ha]
  ext x
  simp only [mem_highest, Finset.mem_insert]
  constructor
  · rintro ⟨rfl | hx, hlt⟩
    · omega
    · rw [rankIn_insert_not_above (not_lt_of_gt (ha x hx))] at hlt
      exact ⟨hx, hlt⟩
  · rintro ⟨hx, hlt⟩
    rw [rankIn_insert_not_above (not_lt_of_gt (ha x hx))]
    exact ⟨.inr hx, hlt⟩

theorem card_highest : (highest k s).card = min k s.card := by
  induction s using Finset.induction_on_max generalizing k with
  | empty => simp [highest]
  | insert a s ha ih =>
    have hnot : a ∉ s := fun h => lt_irrefl a (ha a h)
    cases k with
    | zero => simp [highest]
    | succ k =>
      rw [highest_insert_greatest ha, Finset.card_insert_of_notMem
        (fun h => hnot (highest_subset k s h)), ih,
        Finset.card_insert_of_notMem hnot]
      omega

/-! ## Cutting back after an insertion -/

/-- What the window has above `x` is the window of what is above `x`. -/
theorem filter_highest (x : α) : (highest k s).filter (x < ·) = highest k (s.filter (x < ·)) := by
  ext y
  simp only [Finset.mem_filter, mem_highest]
  constructor
  · rintro ⟨⟨hy, hlt⟩, hxy⟩
    exact ⟨⟨hy, hxy⟩, lt_of_le_of_lt (rankIn_mono (Finset.filter_subset _ _) y) hlt⟩
  rintro ⟨⟨hy, hxy⟩, hlt⟩
  refine ⟨⟨hy, ?_⟩, hxy⟩
  have hsame : rankIn s y = rankIn (s.filter (x < ·)) y := by
    unfold rankIn
    rw [Finset.filter_filter]
    congr 1
    exact Finset.filter_congr fun z _ =>
      ⟨fun h => ⟨lt_trans hxy h, h⟩, fun h => h.2⟩
  omega

theorem rankIn_highest (x : α) : rankIn (highest k s) x = min k (rankIn s x) := by
  unfold rankIn
  rw [filter_highest, card_highest]

/-- Adding a member to the window and cutting back gives the window of the
whole set with the member, whether or not the member is new. -/
theorem highest_insert_highest (p : α) :
    highest k (insert p (highest k s)) = highest k (insert p s) := by
  -- A member of `s` that fell out of the window has `k` members above it,
  -- so nothing at or below it is ever counted.
  have hfallen : ∀ y ∈ s, y ∉ highest k s → k ≤ rankIn s y := by
    intro y hy hnot
    by_contra hlt
    exact hnot (mem_highest.mpr ⟨hy, by omega⟩)
  have hrank : ∀ x, rankIn (insert p (highest k s)) x < k ↔ rankIn (insert p s) x < k := by
    intro x
    have hwindow := rankIn_highest k s x
    by_cases hxp : x < p
    · by_cases hps : p ∈ s
      · rw [Finset.insert_eq_of_mem hps]
        by_cases hph : p ∈ highest k s
        · rw [Finset.insert_eq_of_mem hph]
          omega
        have hp := hfallen p hps hph
        have habove : rankIn s p ≤ rankIn s x := Finset.card_le_card fun z hz => by
            simp only [Finset.mem_filter] at hz ⊢
            exact ⟨hz.1, lt_trans hxp hz.2⟩
        rw [rankIn_insert_above hph hxp]
        omega
      · rw [rankIn_insert_above hps hxp,
          rankIn_insert_above (fun h => hps (highest_subset k s h)) hxp]
        omega
    · rw [rankIn_insert_not_above hxp, rankIn_insert_not_above hxp]
      omega
  ext x
  simp only [mem_highest, Finset.mem_insert, hrank]
  constructor
  · rintro ⟨hx | ⟨hx, -⟩, hlt⟩
    · exact ⟨.inl hx, hlt⟩
    · exact ⟨.inr hx, hlt⟩
  rintro ⟨hx | hx, hlt⟩
  · exact ⟨.inl hx, hlt⟩
  · have hle := rankIn_mono (Finset.subset_insert p s) x
    exact ⟨.inr ⟨hx, by omega⟩, hlt⟩

/-! ## Sorted lists -/

theorem toFinset_drop_eq_highest {l : List α} (h : l.Pairwise (· < ·)) (k : Nat) :
    (l.drop (l.length - k)).toFinset = highest k l.toFinset := by
  induction l with
  | nil =>
    rw [drop_nil, toFinset_nil, highest_of_card_le]
    simp
  | cons a rest ih =>
    obtain ⟨ha, hrest⟩ := pairwise_cons.mp h
    have hcard : rest.toFinset.card = rest.length :=
      toFinset_card_of_nodup (hrest.imp ne_of_lt)
    by_cases hk : (a :: rest).length ≤ k
    · rw [Nat.sub_eq_zero_of_le hk, drop_zero, highest_of_card_le]
      exact le_trans (toFinset_card_le _) hk
    have hlen : (a :: rest).length - k = rest.length - k + 1 := by
      simp only [length_cons] at hk ⊢
      omega
    rw [hlen, drop_succ_cons, ih hrest, toFinset_cons, highest_insert_least]
    · exact fun x hx => ha x (mem_toFinset.mp hx)
    · simp only [length_cons] at hk
      omega

end AsynGyanis.Library
