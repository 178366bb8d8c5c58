import Imagewright.Text.Sorted
import Mathlib.Data.List.Basic

/-!
# Texts in order

## Main statements

* `Text.pairwise_sortBy`: a sorted list is in order.
* `Text.eq_sort_iff`: sorting is the only way to put texts in order.
-/
namespace Imagewright.Text

variable {α : Type} {key : α → String}

theorem pairwise_insertBy {x : α} {l : List α} (h : l.Pairwise fun a b => key a ≤ key b) :
    (insertBy key x l).Pairwise fun a b => key a ≤ key b := by
  induction l with
  | nil => simp [insertBy]
  | cons y rest ih =>
    obtain ⟨hy, hrest⟩ := List.pairwise_cons.1 h
    rw [insertBy]
    split
    · next hlt =>
      refine List.pairwise_cons.2 ⟨fun z hz => ?_, ih hrest⟩
      rcases List.mem_cons.1 ((insertBy_perm key x rest).mem_iff.1 hz) with rfl | hz
      · exact String.not_lt.1 (String.lt_asymm hlt)
      · exact hy z hz
    · next hle =>
      have hxy : key x ≤ key y := String.not_lt.1 hle
      refine List.pairwise_cons.2 ⟨fun z hz => ?_, h⟩
      rcases List.mem_cons.1 hz with rfl | hz
      · exact hxy
      · exact String.le_trans hxy (hy z hz)

theorem pairwise_sortBy (key : α → String) (l : List α) :
    (sortBy key l).Pairwise fun a b => key a ≤ key b := by
  induction l with
  | nil => exact .nil
  | cons x rest ih => exact pairwise_insertBy ih

/-- There is one way to put texts in order. -/
theorem eq_sort_iff {texts sorted : List String} :
    sorted = sort texts ↔ sorted.Perm texts ∧ sorted.Pairwise (· ≤ ·) := by
  constructor
  · rintro rfl
    exact ⟨sortBy_perm id texts, pairwise_sortBy id texts⟩
  · rintro ⟨hperm, hsorted⟩
    exact List.Perm.eq_of_pairwise (fun _ _ _ _ => String.le_antisymm) hsorted
      (pairwise_sortBy id texts) (hperm.trans (sortBy_perm id texts).symm)

theorem isEmpty_sort (texts : List String) : (sort texts).isEmpty = texts.isEmpty := by
  rw [Bool.eq_iff_iff, List.isEmpty_iff_length_eq_zero, List.isEmpty_iff_length_eq_zero, sort,
    (sortBy_perm id texts).length_eq]

end Imagewright.Text
