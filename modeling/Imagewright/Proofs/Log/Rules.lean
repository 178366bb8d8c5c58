import Imagewright.Log.Redaction
import Imagewright.Proofs.Text.Patterns

/-!
# Rules at work

A rule goes over a text from left to right. Where no match takes a `stop`, a rule treats what is in
front of it and what is behind it apart.

## Main definitions

* `Rule.avoids`: no match of a rule takes a `stop`.

## Main statements

* `Rule.applyFrom_append`: a text is treated in two parts.
* `Rule.applyFrom_match`: what becomes of a text that begins with a match.
-/
namespace Imagewright.Log.Rule

open Text (Cursor Pattern)

/-- No match takes a `stop`. -/
def avoids (r : Rule) (stop : Char) : Bool := r.kept.avoids stop && r.secret.avoids stop

variable {r : Rule} {stop : Char}

/-! ## One step -/

theorem applyFrom_of_none {c : Char} {rest : List Char} {before : Option Char}
    (h : r.match? ⟨before, c :: rest⟩ = none) :
    r.applyFrom 0 before (c :: rest) = c :: r.applyFrom 0 (some c) rest := by
  rw [applyFrom, h]

theorem applyFrom_of_some {c : Char} {rest : List Char} {before : Option Char} {k e : Cursor}
    (h : r.match? ⟨before, c :: rest⟩ = some (k, e)) :
    r.applyFrom 0 before (c :: rest) =
      (c :: rest).take (rest.length + 1 - k.rest.length) ++ r.mark.toList ++
        r.applyFrom (rest.length - e.rest.length) (some c) rest := by
  rw [applyFrom, h]

theorem applyFrom_skip (xs ys : List Char) (before : Option Char) :
    r.applyFrom xs.length before (xs ++ ys) = r.applyFrom 0 (xs.getLast?.or before) ys := by
  induction xs generalizing before with
  | nil => rfl
  | cons x xs ih =>
    rw [List.length_cons, List.cons_append, applyFrom, ih, Pattern.getLast?_cons_or]

/-- A match at the head of a text is replaced, up to the part that is kept. -/
theorem applyFrom_match {front found rest : List Char} {before kb eb : Option Char}
    (hne : front ++ found ≠ [])
    (h : r.match? ⟨before, front ++ found ++ rest⟩ = some (⟨kb, found ++ rest⟩, ⟨eb, rest⟩)) :
    r.applyFrom 0 before (front ++ found ++ rest) =
      front ++ r.mark.toList ++ r.applyFrom 0 ((front ++ found).getLast?.or before) rest := by
  obtain ⟨c, xs, hxs⟩ := List.exists_cons_of_ne_nil hne
  have kept : (c :: (xs ++ rest)).take ((xs ++ rest).length + 1 - (found ++ rest).length) =
      front := by
    rw [← List.cons_append, ← hxs, List.append_assoc]
    have hlen := congrArg List.length hxs
    refine List.take_left' ?_
    simp only [List.length_append, List.length_cons] at hlen ⊢
    omega
  have skip : (xs ++ rest).length - rest.length = xs.length := by
    rw [List.length_append, Nat.add_sub_cancel]
  rw [hxs, List.cons_append] at h ⊢
  rw [applyFrom_of_some h, kept, skip, applyFrom_skip, Pattern.getLast?_cons_or]

/-! ## Texts that go on -/

/-- What follows the last `stop` does not count for a match in front of it. -/
theorem match?_extend (hr : r.avoids stop = true) (tail : List Char) {c : Cursor}
    (hs : stop ∈ c.rest) :
    r.match? (c.extend tail) =
        (r.match? c).map (Prod.map (Cursor.extend tail) (Cursor.extend tail)) ∧
      ∀ m ∈ r.match? c, stop ∈ m.1.rest ∧ stop ∈ m.2.rest := by
  obtain ⟨hkept, hsecret⟩ := Bool.and_eq_true_iff.1 hr
  obtain ⟨hends, hstop⟩ := r.kept.ends_extend hkept tail hs
  constructor
  · rw [match?, match?, hends, List.flatMap_map, ← List.head?_map, List.map_flatMap]
    refine congrArg List.head? (List.flatMap_congr fun k hk => ?_)
    rw [(r.secret.ends_extend hsecret tail (hstop k hk)).1, List.map_map, List.map_map]
    rfl
  · rintro ⟨k, e⟩ hm
    have hm := List.mem_of_mem_head? hm
    simp only [List.mem_flatMap, List.mem_map, Prod.mk.injEq] at hm
    obtain ⟨_, hk, _, he, rfl, rfl⟩ := hm
    exact ⟨hstop _ hk, (r.secret.ends_extend hsecret tail (hstop _ hk)).2 _ he⟩

/-- One step in front of a `stop`, if the steps behind it are not aware of what follows it. -/
theorem applyFrom_zero_append (hr : r.avoids stop = true) (c : Char) (rest tail : List Char)
    {out : List Char} (hs : stop ∈ c :: rest)
    (ih : ∀ skip ≤ rest.length - 1,
      r.applyFrom skip (some c) (rest ++ tail) = r.applyFrom skip (some c) rest ++ out)
    (before : Option Char) :
    r.applyFrom 0 before (c :: rest ++ tail) = r.applyFrom 0 before (c :: rest) ++ out := by
  obtain ⟨(hmatch : r.match? ⟨before, c :: (rest ++ tail)⟩ = _), hstop⟩ :=
    match?_extend hr tail (c := ⟨before, c :: rest⟩) hs
  cases h : r.match? ⟨before, c :: rest⟩ with
  | none =>
    rw [h] at hmatch
    rw [applyFrom_of_none h, List.cons_append, applyFrom_of_none hmatch, ih 0 (Nat.zero_le _),
      List.cons_append]
  | some m =>
    obtain ⟨k, e⟩ := m
    rw [h] at hmatch
    obtain ⟨hk, he⟩ := hstop _ h
    have hk : 0 < k.rest.length := List.length_pos_of_mem hk
    have he : 0 < e.rest.length := List.length_pos_of_mem he
    have kept : (rest ++ tail).length + 1 - (k.extend tail).rest.length =
        rest.length + 1 - k.rest.length := by
      simp only [Cursor.extend, List.length_append]
      omega
    have skip : (rest ++ tail).length - (e.extend tail).rest.length =
        rest.length - e.rest.length := by
      simp only [Cursor.extend, List.length_append]
      omega
    have front : (c :: (rest ++ tail)).take (rest.length + 1 - k.rest.length) =
        (c :: rest).take (rest.length + 1 - k.rest.length) := by
      rw [← List.cons_append, List.take_append_of_le_length]
      rw [List.length_cons]
      omega
    rw [applyFrom_of_some h, List.cons_append, applyFrom_of_some hmatch, kept, skip, front,
      ih _ (by omega), List.append_assoc _ _ out]

/-- A rule whose matches take no `stop` treats what is in front of one and what is behind it
apart. -/
theorem applyFrom_append (hr : r.avoids stop = true) (xs tail : List Char) {skip : Nat}
    (hskip : skip ≤ xs.length) (before : Option Char) :
    r.applyFrom skip before (xs ++ stop :: tail) =
      r.applyFrom skip before (xs ++ [stop]) ++ r.applyFrom 0 (some stop) tail := by
  induction xs generalizing skip before with
  | nil =>
    obtain rfl : skip = 0 := Nat.le_zero.1 hskip
    refine applyFrom_zero_append hr stop [] tail List.mem_cons_self (fun skip hs => ?_) before
    obtain rfl : skip = 0 := Nat.le_zero.1 hs
    rfl
  | cons c xs ih =>
    cases skip with
    | zero =>
      have behind : ∀ skip ≤ (xs ++ [stop]).length - 1,
          r.applyFrom skip (some c) (xs ++ [stop] ++ tail) =
            r.applyFrom skip (some c) (xs ++ [stop]) ++ r.applyFrom 0 (some stop) tail := by
        intro skip hs
        rw [List.append_assoc]
        exact ih (by simpa using hs) (some c)
      simpa using applyFrom_zero_append hr c (xs ++ [stop]) tail (by simp) behind before
    | succ skip => exact ih (Nat.le_of_succ_le_succ hskip) (some c)

end Imagewright.Log.Rule
