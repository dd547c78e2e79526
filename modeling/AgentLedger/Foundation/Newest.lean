import Mathlib.Data.Finset.Card
import Mathlib.Data.Finset.Dedup
import Mathlib.Data.List.Sort
import Mathlib.Order.Basic

namespace Foundation

/-! The element of a rank in a finite set, counted from the largest. -/

variable {Day : Type} [LinearOrder Day]

/-- Exactly `rank` elements are at least as large. -/
def IsNewest (rank : Nat) (day : Day) (days : Finset Day) : Prop :=
  day ∈ days ∧ (days.filter (day ≤ ·)).card = rank

namespace IsNewest

variable {rank : Nat} {first second : Day} {days kept : Finset Day}

private theorem not_lt (one : IsNewest rank first days)
    (two : IsNewest rank second days) : ¬ first < second := by
  intro below
  have inside : days.filter (second ≤ ·) ⊂ days.filter (first ≤ ·) := by
    refine (Finset.ssubset_iff_of_subset ?_).mpr ⟨first,
      Finset.mem_filter.mpr ⟨one.1, le_refl first⟩, ?_⟩
    · exact Finset.monotone_filter_right days fun day _ above =>
        below.le.trans above
    · simpa [one.1] using below
  have fewer := Finset.card_lt_card inside
  rw [one.2, two.2] at fewer
  exact absurd fewer (lt_irrefl rank)

theorem unique (one : IsNewest rank first days)
    (two : IsNewest rank second days) : first = second :=
  le_antisymm (le_of_not_gt (not_lt two one)) (le_of_not_gt (not_lt one two))

theorem of_subset (newest : IsNewest rank first days) (subset : kept ⊆ days)
    (above : ∀ day ∈ days, first ≤ day → day ∈ kept) :
    IsNewest rank first kept := by
  refine ⟨above first newest.1 (le_refl first), ?_⟩
  rw [← newest.2]
  congr 1
  ext day
  simp only [Finset.mem_filter]
  constructor
  · intro held
    exact ⟨subset held.1, held.2⟩
  · intro held
    exact ⟨above day held.1 held.2, held.2⟩

theorem of_decreasing {sorted : List Day}
    (decreasing : sorted.Pairwise fun before after => after < before)
    {index : Nat} (bound : index < sorted.length) :
    IsNewest (index + 1) sorted[index] sorted.toFinset := by
  refine ⟨List.mem_toFinset.mpr (List.getElem_mem bound), ?_⟩
  have front : sorted.toFinset.filter (sorted[index] ≤ ·) =
      (sorted.take (index + 1)).toFinset := by
    ext day
    simp only [Finset.mem_filter, List.mem_toFinset]
    constructor
    · rintro ⟨member, above⟩
      obtain ⟨place, inside, rfl⟩ := List.mem_iff_getElem.mp member
      have early : place ≤ index := by
        by_contra late
        have below := List.pairwise_iff_getElem.mp decreasing index place bound
          inside (by omega)
        exact absurd above (not_le_of_gt below)
      exact List.mem_take_iff_getElem.mpr ⟨place, by omega, rfl⟩
    · intro member
      obtain ⟨place, inside, rfl⟩ := List.mem_take_iff_getElem.mp member
      refine ⟨List.getElem_mem _, ?_⟩
      rcases Nat.lt_or_ge place index with before | after
      · exact (List.pairwise_iff_getElem.mp decreasing place index (by omega)
          bound before).le
      · have same : place = index := by omega
        subst same
        exact le_refl _
  have distinct : (sorted.take (index + 1)).Nodup :=
    (decreasing.imp fun below => below.ne').sublist (List.take_sublist _ _)
  rw [front, List.toFinset_card_of_nodup distinct, List.length_take]
  omega

end IsNewest

theorem decreasing_insertionSort (listed : List Day) :
    (listed.dedup.insertionSort fun before after =>
      after ≤ before).Pairwise fun before after => after < before := by
  have sorted := List.pairwise_insertionSort
    (fun before after : Day => after ≤ before) listed.dedup
  have distinct : (listed.dedup.insertionSort fun before after =>
      after ≤ before).Nodup :=
    (List.perm_insertionSort _ _).nodup_iff.mpr listed.nodup_dedup
  refine (sorted.and distinct).imp ?_
  rintro before after ⟨below, apart⟩
  exact lt_of_le_of_ne below apart.symm

end Foundation
