import Imagewright.Proofs.Log.Rules
import Imagewright.Proofs.Text.Matches

/-!
# What a rule leaves of a text

A rule keeps characters and puts marks between them. What stands in the result without a mark in it
stands in the text as well, next to the same characters or next to what was replaced.

## Main definitions

* `Rule.Rewrites`: how a rule goes over a text.
* `Rule.Replaces`: a rule takes out what is between two places.

## Main statements

* `Rule.rewrites_applyFrom`: applying a rule is going over a text in this way.
* `Rule.Rewrites.exists_stretch`: a stretch of the result is a stretch of the text.
-/
namespace Imagewright.Log.Rule

open Text (Cursor Pattern)

variable {r : Rule} {before : Option Char} {cs out : List Char} {c k e : Cursor}

/-! ## Matches -/

theorem of_match? (h : r.match? c = some (k, e)) :
    k ∈ r.kept.ends c ∧ (r.secret.ends k).head? = some e := by
  rw [match?, List.head?_flatMap] at h
  obtain ⟨m, hm, h⟩ := List.exists_of_findSome?_eq_some h
  rw [List.head?_map, Option.map_eq_some_iff] at h
  obtain ⟨e', he, heq⟩ := h
  obtain ⟨rfl, rfl⟩ := Prod.mk.inj heq
  exact ⟨hm, he⟩

/-- A rule takes out what is between two places. -/
def Replaces (r : Rule) (k e : Cursor) : Prop := ∃ c, r.match? c = some (k, e)

theorem Replaces.head?_ends (h : r.Replaces k e) : (r.secret.ends k).head? = some e := by
  obtain ⟨c, hc⟩ := h
  exact (of_match? hc).2

/-- What a rule takes out is of its secret part. -/
theorem Replaces.exists_taken (h : r.Replaces k e) :
    ∃ xs, k.rest = xs ++ e.rest ∧ e.before = xs.getLast?.or k.before ∧
      r.secret.Takes k.before xs e.rest :=
  Pattern.mem_ends_iff.1 (List.mem_of_head? h.head?_ends)

/-- A rule that keeps nothing of a match finds one wherever there is one. -/
theorem not_takes_of_match?_eq_none (hr : r.kept = .nothing) {xs after : List Char}
    (h : r.match? ⟨before, xs ++ after⟩ = none) : ¬r.secret.Takes before xs after := by
  intro htakes
  have hend : (⟨xs.getLast?.or before, after⟩ : Cursor) ∈ r.secret.ends ⟨before, xs ++ after⟩ :=
    Pattern.mem_ends_iff.2 ⟨xs, rfl, rfl, htakes⟩
  rw [match?, hr] at h
  simp_all [Pattern.ends]

/-! ## Going over a text -/

/-- How a rule goes over a text: a character is kept if nothing matches at it, and of a match the
first part is kept and the mark stands for the rest. -/
inductive Rewrites (r : Rule) : Option Char → List Char → List Char → Prop where
  | nil {before : Option Char} : Rewrites r before [] []
  | keep {before : Option Char} {c : Char} {rest out : List Char}
      (h : r.match? ⟨before, c :: rest⟩ = none) (next : Rewrites r (some c) rest out) :
      Rewrites r before (c :: rest) (c :: out)
  | replace {before kb eb : Option Char} {front found rest out : List Char}
      (h : r.match? ⟨before, front ++ found ++ rest⟩ =
        some (⟨kb, found ++ rest⟩, ⟨eb, rest⟩))
      (next : Rewrites r ((front ++ found).getLast?.or before) rest out) :
      Rewrites r before (front ++ found ++ rest) (front ++ r.mark.toList ++ out)

/-- The secret part of a rule takes at least one character. -/
def TakesSome (r : Rule) : Prop :=
  ∀ before xs after, r.secret.Takes before xs after → xs ≠ []

theorem rewrites_applyFrom (hr : r.TakesSome) (before : Option Char) (cs : List Char) :
    r.Rewrites before cs (r.applyFrom 0 before cs) := by
  induction hn : cs.length using Nat.strongRecOn generalizing before cs with
  | ind n ih =>
    subst hn
    cases cs with
    | nil => exact .nil
    | cons c rest =>
      cases h : r.match? ⟨before, c :: rest⟩ with
      | none =>
        rw [applyFrom_of_none h]
        exact .keep h (ih _ (by simp) _ _ rfl)
      | some m =>
        obtain ⟨⟨kb, kr⟩, ⟨eb, er⟩⟩ := m
        obtain ⟨front, hfront, -, -⟩ := Pattern.mem_ends_iff.1 (of_match? h).1
        obtain ⟨found, hfound, -, htakes⟩ := Replaces.exists_taken ⟨_, h⟩
        have hne : found ≠ [] := hr _ _ _ htakes
        obtain rfl : kr = found ++ er := hfound
        have hcs : c :: rest = front ++ found ++ er := by rw [List.append_assoc]; exact hfront
        rw [hcs] at h ih ⊢
        rw [applyFrom_match (by simp [hne]) h]
        refine .replace h (ih _ ?_ _ _ rfl)
        have := List.length_pos_iff.2 hne
        simp
        omega

/-! ## Stretches -/

theorem eq_append_of_notMem {x : Char} {front tail w ys : List Char} (hw : x ∉ w)
    (h : front ++ x :: tail = w ++ ys) : ∃ u, front = w ++ u ∧ ys = u ++ x :: tail := by
  induction w generalizing front with
  | nil => exact ⟨front, rfl, h.symm⟩
  | cons y w ih =>
    obtain ⟨hy, hrest⟩ := not_or.1 (mt List.mem_cons.2 hw)
    cases front with
    | nil => exact absurd (List.cons.inj h).1 hy
    | cons z front =>
      obtain ⟨rfl, htail⟩ := List.cons.inj h
      obtain ⟨u, rfl, hys⟩ := ih hrest htail
      exact ⟨u, rfl, hys⟩

/-- A character that is not in the middle of three texts is in the first or the last. -/
theorem append_eq_append_cons {y : Char} {front middle out xs tail : List Char}
    (hne : middle ≠ []) (hy : y ∉ middle) (h : front ++ middle ++ out = xs ++ y :: tail) :
    (∃ as, xs = front ++ middle ++ as ∧ out = as ++ y :: tail) ∨
      ∃ v, front = xs ++ y :: v ∧ tail = v ++ (middle ++ out) := by
  rw [List.append_assoc] at h
  rcases List.append_eq_append_iff.1 h with ⟨as, rfl, has⟩ | ⟨v, rfl, hv⟩
  · obtain ⟨u, rfl, rfl⟩ := eq_append_of_notMem hy has.symm
    exact .inl ⟨u, (List.append_assoc _ _ _).symm, rfl⟩
  · cases v with
    | nil =>
      obtain ⟨c, middle, rfl⟩ := List.exists_cons_of_ne_nil hne
      obtain ⟨rfl, -⟩ := List.cons.inj hv
      exact absurd List.mem_cons_self hy
    | cons z v =>
      obtain ⟨rfl, htail⟩ := List.cons.inj hv
      exact .inr ⟨v, rfl, htail⟩

/-- What follows a stretch of the text: the same character as in the result, or what a rule takes
out. -/
def Follows (r : Rule) (ys' ys : List Char) : Prop :=
  ys'.head? = ys.head? ∨ ∃ k e, r.Replaces k e ∧ k.rest = ys'

theorem Rewrites.exists_start (h : r.Rewrites before cs out) {x : Char} {m w ys : List Char}
    (hmark : r.mark.toList = x :: m) (hw : x ∉ w) (hout : out = w ++ ys) :
    ∃ ys', cs = w ++ ys' ∧ r.Follows ys' ys := by
  induction h generalizing w ys with
  | nil =>
    obtain ⟨rfl, rfl⟩ := List.append_eq_nil_iff.1 hout.symm
    exact ⟨[], rfl, .inl rfl⟩
  | @keep before c rest out _ _ ih =>
    cases w with
    | nil =>
      obtain rfl : c :: out = ys := hout
      exact ⟨_, rfl, .inl rfl⟩
    | cons y w =>
      obtain ⟨rfl, hrest⟩ := List.cons.inj hout
      obtain ⟨ys', rfl, hys⟩ := ih (not_or.1 (mt List.mem_cons.2 hw)).2 hrest
      exact ⟨ys', rfl, hys⟩
  | @replace before kb eb front found rest out h _ ih =>
    rw [hmark, List.append_assoc, List.cons_append] at hout
    obtain ⟨u, rfl, rfl⟩ := eq_append_of_notMem hw hout
    refine ⟨u ++ (found ++ rest), by simp, ?_⟩
    cases u with
    | nil => exact .inr ⟨_, _, ⟨_, h⟩, rfl⟩
    | cons => exact .inl rfl

/-- A stretch of the result that has nothing of a mark in front and no mark in it is a stretch of
the text. In front of it stands the same character, or what the rule has taken out. -/
theorem Rewrites.exists_stretch (h : r.Rewrites before cs out) {x y : Char}
    {m xs w ys : List Char} (hmark : r.mark.toList = x :: m) (hy : y ∉ r.mark.toList)
    (hw : x ∉ y :: w) (hout : out = xs ++ (y :: w ++ ys)) :
    ∃ xs' ys', cs = xs' ++ (y :: w ++ ys') ∧ r.Follows ys' ys ∧
      (xs = [] → xs' = []) ∧
      (xs'.getLast?.or before = xs.getLast?.or before ∨
        ∃ k e, r.Replaces k e ∧ e.rest = y :: w ++ ys') ∧
      (r.kept = .nothing → r.match? ⟨xs'.getLast?.or before, y :: w ++ ys'⟩ = none) := by
  induction h generalizing xs with
  | nil => simp at hout
  | @keep before c rest out hnone next ih =>
    cases xs with
    | nil =>
      obtain ⟨rfl, hrest⟩ := List.cons.inj hout
      obtain ⟨ys', rfl, hys⟩ :=
        next.exists_start hmark (not_or.1 (mt List.mem_cons.2 hw)).2 hrest
      exact ⟨[], ys', rfl, hys, fun _ => rfl, .inl rfl, fun _ => hnone⟩
    | cons z xs =>
      obtain ⟨rfl, hrest⟩ := List.cons.inj hout
      obtain ⟨xs', ys', rfl, hys, -, hbefore, hmatch⟩ := ih hrest
      refine ⟨c :: xs', ys', rfl, hys, by simp, ?_, ?_⟩
      · rwa [Pattern.getLast?_cons_or, Pattern.getLast?_cons_or]
      · rwa [Pattern.getLast?_cons_or]
  | @replace before kb eb front found rest out h next ih =>
    have hne : r.mark.toList ≠ [] := by simp [hmark]
    rcases append_eq_append_cons hne hy hout with ⟨as, rfl, has⟩ | ⟨v, rfl, htail⟩
    · -- The stretch is behind the mark, and what is in front of it was taken out if it is next.
      obtain ⟨xs', ys', rfl, hys, hnil, hbefore, hmatch⟩ := ih has
      refine ⟨front ++ found ++ xs', ys', by simp, hys, by simp [hne], ?_, ?_⟩
      · rw [Pattern.getLast?_append_or (front ++ found),
          Pattern.getLast?_append_or (front ++ r.mark.toList)]
        cases as with
        | nil =>
          obtain rfl := hnil rfl
          exact .inr ⟨_, _, ⟨_, h⟩, rfl⟩
        | cons a as => simpa only [List.getLast?_cons, Option.some_or] using hbefore
      · rwa [Pattern.getLast?_append_or]
    · -- The stretch is in the part of the match that is kept, and ends in front of the mark.
      rw [hmark] at htail
      obtain ⟨u, rfl, rfl⟩ := eq_append_of_notMem (List.not_mem_of_not_mem_cons hw) htail.symm
      refine ⟨xs, u ++ (found ++ rest), by simp, ?_, id, .inl rfl, fun hr => ?_⟩
      · cases u with
        | nil => exact .inr ⟨_, _, ⟨_, h⟩, rfl⟩
        | cons => exact .inl rfl
      · have hk := (of_match? h).1
        rw [hr, Pattern.ends, List.mem_singleton, Cursor.mk.injEq] at hk
        have hlen := congrArg List.length hk.2
        simp only [List.length_append, List.length_cons] at hlen
        omega

end Imagewright.Log.Rule
