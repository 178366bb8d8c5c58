import Mathlib.Data.List.Basic

/-!
# First occurrences

What is left of a list if every item goes that equals an earlier one. The test of equality may be
any, so items that are equal need not be the same.

## Main statements

* `FirstOccurrences.filterRec`: induction over a list whose tail is filtered on the way.
* `FirstOccurrences.pairwise_eraseDupsBy`, `FirstOccurrences.eraseDupsBy_of_pairwise`: nothing equal
  is left, and where nothing is equal nothing goes.
* `FirstOccurrences.eraseDupsBy_append`: behind a list stays what equals nothing that was kept of
  it.
-/
namespace Imagewright.FirstOccurrences

variable {α : Type} {same : α → α → Bool}

/-- Induction over a list whose tail is filtered on the way. -/
@[elab_as_elim]
theorem filterRec {P : List α → Prop} (nil : P [])
    (cons : ∀ a as, (∀ p : α → Bool, P (as.filter p)) → P (a :: as)) : ∀ as, P as
  | [] => nil
  | a :: as => cons a as fun p => filterRec nil cons (as.filter p)
termination_by as => as.length
decreasing_by exact Nat.lt_succ_of_le (List.length_filter_le ..)

theorem eraseDupsBy_sublist (as : List α) : (as.eraseDupsBy same).Sublist as := by
  induction as using filterRec with
  | nil => exact .refl _
  | cons a as ih =>
    rw [List.eraseDupsBy_cons]
    exact ((ih _).trans List.filter_sublist).cons_cons a

/-- No item that is left equals an earlier one. -/
theorem pairwise_eraseDupsBy (as : List α) :
    (as.eraseDupsBy same).Pairwise fun earlier later => same later earlier = false := by
  induction as using filterRec with
  | nil => exact .nil
  | cons a as ih =>
    rw [List.eraseDupsBy_cons]
    refine .cons (fun b hb => ?_) (ih _)
    have hmem := List.mem_filter.1 ((eraseDupsBy_sublist _).subset hb)
    exact of_decide_eq_true hmem.2

/-- Where no item equals an earlier one, all are left. -/
theorem eraseDupsBy_of_pairwise {as : List α}
    (h : as.Pairwise fun earlier later => same later earlier = false) :
    as.eraseDupsBy same = as := by
  induction as with
  | nil => rfl
  | cons a as ih =>
    obtain ⟨ha, has⟩ := List.pairwise_cons.1 h
    have hfilter : as.filter (fun b => decide (same b a = false)) = as :=
      List.filter_eq_self.2 fun b hb => decide_eq_true (ha b hb)
    rw [List.eraseDupsBy_cons, hfilter, ih has]

/-- Behind a list stays what equals nothing that was kept of it. -/
theorem eraseDupsBy_append (as bs : List α) : (as ++ bs).eraseDupsBy same =
    as.eraseDupsBy same ++
      (bs.filter fun b => !(as.eraseDupsBy same).any (same b)).eraseDupsBy same := by
  induction as using filterRec generalizing bs with
  | nil => simp
  | cons a as ih =>
    rw [List.cons_append, List.eraseDupsBy_cons, List.filter_append, ih, List.eraseDupsBy_cons,
      List.filter_filter, List.cons_append]
    congr 3
    refine List.filter_congr fun b _ => ?_
    cases hba : same b a <;> simp [hba]

theorem eraseDups_concat [BEq α] [LawfulBEq α] [DecidableEq α] (as : List α) (a : α) :
    (as ++ [a]).eraseDups = if a ∈ as then as.eraseDups else as.eraseDups ++ [a] := by
  rw [List.eraseDups_append]
  split
  · next h => simp [List.removeAll, h]
  · next h => simp [List.removeAll, h, List.eraseDups_cons]

end Imagewright.FirstOccurrences
