import Imagewright.Text.Pattern
import Mathlib.Data.List.Basic

/-!
# Where patterns end

A pattern that has no use for a character never passes one, and what is behind such a character
does not count. A run ends in one place if what follows it cannot begin inside of it. A repetition
goes one more round or ends.

## Main definitions

* `Cursor.extend`: a place in a longer text.
* `Pattern.avoids`: a pattern takes no character of one kind, and does not look for the end.
* `Pattern.StartsWith`: a pattern begins with one character only.

## Main statements

* `Pattern.ends_repeated`: one more round of a repetition, or none.
* `Pattern.ends_extend`: a pattern that avoids a character is not aware of what follows it.
* `Pattern.ends_run_seq`, `Pattern.ends_many_seq`: a run and the pattern behind it.
* `Pattern.ends_word`: a word ends behind its last character.
-/
namespace Imagewright.Text

/-- The same place in a text that goes on. -/
def Cursor.extend (tail : List Char) (c : Cursor) : Cursor := ⟨c.before, c.rest ++ tail⟩

namespace Pattern

/-- A pattern takes no `stop`, and does not look for the end of the text. -/
def avoids (stop : Char) : Pattern → Bool
  | nothing | boundary | start => true
  | ending => false
  | one p | run p => !p stop
  | seq a b | either a b => a.avoids stop && b.avoids stop
  | repeated a => a.avoids stop

/-- A pattern begins with one character only. -/
def StartsWith (x : Char) (m : Pattern) : Prop :=
  ∀ before c rest, c ≠ x → m.ends ⟨before, c :: rest⟩ = []

variable {p : Char → Bool} {stop : Char}

/-! ## Repetitions -/

/-- A place behind another one in the same text. -/
def furtherOn (c m : Cursor) : Bool := m.rest.length < c.rest.length

/-- Once there are as many rounds as characters follow, more of them change nothing. -/
theorem repeatEnds_congr {round : Cursor → List Cursor} {n m : Nat} {c : Cursor}
    (hn : c.rest.length ≤ n) (hm : c.rest.length ≤ m) :
    repeatEnds round n c = repeatEnds round m c := by
  have hnone : c.rest.length = 0 →
      (round c).filter (fun e => e.rest.length < c.rest.length) = [] := by
    intro h
    simp [h]
  induction n generalizing m c with
  | zero =>
    cases m with
    | zero => rfl
    | succ m => simp [repeatEnds, hnone (Nat.le_zero.1 hn)]
  | succ n ih =>
    cases m with
    | zero => simp [repeatEnds, hnone (Nat.le_zero.1 hm)]
    | succ m =>
      simp only [repeatEnds]
      congr 1
      refine List.flatMap_congr fun e he => ?_
      have hshorter := (List.mem_filter.1 he).2
      simp only [decide_eq_true_eq] at hshorter
      exact ih (by omega) (by omega) fun h => by simp [h]

/-- A repetition goes one more round, from which it goes on, or ends where it is. -/
theorem ends_repeated (a : Pattern) (c : Cursor) :
    (repeated a).ends c =
      ((a.ends c).filter (furtherOn c)).flatMap (repeated a).ends ++ [c] := by
  have hround : (repeated a).ends c = repeatEnds a.ends (c.rest.length + 1) c :=
    repeatEnds_congr (Nat.le_refl _) (Nat.le_succ _)
  rw [hround, repeatEnds]
  congr 1
  refine List.flatMap_congr fun e he => ?_
  have hshorter := (List.mem_filter.1 he).2
  simp only [decide_eq_true_eq] at hshorter
  exact repeatEnds_congr (Nat.le_of_lt hshorter) (Nat.le_refl _)

theorem mem_ends_repeated {a : Pattern} {c e : Cursor} : e ∈ (repeated a).ends c ↔
    e = c ∨ ∃ m ∈ a.ends c, furtherOn c m = true ∧ e ∈ (repeated a).ends m := by
  rw [ends_repeated, List.mem_append, List.mem_singleton, List.mem_flatMap, or_comm]
  simp [List.mem_filter, and_assoc]

/-! ## Texts that go on -/

theorem mem_rest {c : Char} {rest : List Char} (hp : p stop = false) (hc : p c = true)
    (hs : stop ∈ c :: rest) : stop ∈ rest := by
  rcases List.mem_cons.1 hs with rfl | hr
  · rw [hp] at hc
    cases hc
  · exact hr

theorem oneEnd_append {cs : List Char} (hp : p stop = false) (hs : stop ∈ cs)
    (tail : List Char) :
    oneEnd p (cs ++ tail) = (oneEnd p cs).map (·.extend tail) ∧
      ∀ e ∈ oneEnd p cs, stop ∈ e.rest := by
  cases cs with
  | nil => cases hs
  | cons c rest =>
    by_cases hc : p c
    · simpa [oneEnd, hc, Cursor.extend] using mem_rest hp hc hs
    · simp [oneEnd, hc]

/-- A run stops in front of the first `stop`. -/
theorem runEnds_append {cs : List Char} (found : List Cursor) {before : Option Char}
    (hp : p stop = false) (hs : stop ∈ cs) (hf : ∀ e ∈ found, stop ∈ e.rest)
    (tail : List Char) :
    runEnds p (found.map (·.extend tail)) before (cs ++ tail) =
        (runEnds p found before cs).map (·.extend tail) ∧
      ∀ e ∈ runEnds p found before cs, stop ∈ e.rest := by
  induction cs generalizing found before with
  | nil => cases hs
  | cons c rest ih =>
    have hf' : ∀ e ∈ (⟨before, c :: rest⟩ : Cursor) :: found, stop ∈ e.rest := by
      simpa using ⟨by simpa using hs, hf⟩
    by_cases hc : p c
    · simpa [runEnds, hc, Cursor.extend] using ih _ (mem_rest hp hc hs) hf'
    · simpa [runEnds, hc, Cursor.extend] using hf'

/-- What follows the last `stop` does not count for a pattern that takes none, and every end of such
a pattern is in front of one. -/
theorem ends_extend (a : Pattern) (ha : a.avoids stop = true) (tail : List Char) {c : Cursor}
    (hs : stop ∈ c.rest) :
    a.ends (c.extend tail) = (a.ends c).map (·.extend tail) ∧ ∀ e ∈ a.ends c, stop ∈ e.rest := by
  induction a generalizing c with
  | nothing => simpa [ends] using hs
  | boundary =>
    have head : (c.rest ++ tail).head? = c.rest.head? :=
      List.head?_append_of_ne_nil _ (List.ne_nil_of_mem hs)
    by_cases hb : isBoundary c.before c.rest.head?
    · simpa [ends, Cursor.extend, head, hb] using hs
    · simp [ends, Cursor.extend, head, hb]
  | start =>
    by_cases hb : c.before.isNone
    · simpa [ends, Cursor.extend, hb] using hs
    · simp [ends, Cursor.extend, hb]
  | ending => cases ha
  | one p => exact oneEnd_append (by simpa [avoids] using ha) hs tail
  | run p => exact runEnds_append [] (by simpa [avoids] using ha) hs (by simp) tail
  | seq a b iha ihb =>
    obtain ⟨ha, hb⟩ := Bool.and_eq_true_iff.1 ha
    obtain ⟨hends, hstop⟩ := iha ha hs
    constructor
    · rw [ends, hends, ends, List.flatMap_map, List.map_flatMap]
      exact List.flatMap_congr fun m hm => (ihb hb (hstop m hm)).1
    · intro e he
      obtain ⟨m, hm, he⟩ := mem_ends_seq.1 he
      exact (ihb hb (hstop m hm)).2 e he
  | either a b iha ihb =>
    obtain ⟨ha, hb⟩ := Bool.and_eq_true_iff.1 ha
    constructor
    · rw [ends, (iha ha hs).1, (ihb hb hs).1, ends, List.map_append]
    · intro e he
      rcases mem_ends_either.1 he with he | he
      · exact (iha ha hs).2 e he
      · exact (ihb hb hs).2 e he
  | repeated a iha =>
    -- each round leaves fewer characters
    induction hlength : c.rest.length using Nat.strongRecOn generalizing c with
    | ind n ih =>
      obtain ⟨hround, hstop⟩ := iha ha hs
      have hfurther : furtherOn (c.extend tail) ∘ Cursor.extend tail = furtherOn c := by
        funext m
        simp [furtherOn, Cursor.extend]
      have hrest : ∀ m ∈ (a.ends c).filter (furtherOn c),
          (repeated a).ends (m.extend tail) = ((repeated a).ends m).map (·.extend tail) ∧
            ∀ e ∈ (repeated a).ends m, stop ∈ e.rest := by
        intro m hm
        obtain ⟨hm, hshorter⟩ := List.mem_filter.1 hm
        exact ih _ (hlength ▸ of_decide_eq_true hshorter) (hstop m hm) rfl
      constructor
      · rw [ends_repeated, hround, List.filter_map, hfurther, List.flatMap_map, ends_repeated,
          List.map_append, List.map_flatMap, List.map_singleton]
        congr 1
        exact List.flatMap_congr fun m hm => (hrest m hm).1
      · intro e he
        rw [ends_repeated, List.mem_append, List.mem_flatMap, List.mem_singleton] at he
        rcases he with ⟨m, hm, he⟩ | rfl
        · exact (hrest m hm).2 e he
        · exact hs

/-! ## Runs and words -/

theorem getLast?_cons_or (x : Char) (xs : List Char) (before : Option Char) :
    (x :: xs).getLast?.or before = xs.getLast?.or (some x) := by
  rw [List.getLast?_cons]
  cases xs.getLast? <;> rfl

theorem ends_seq_assoc (a b m : Pattern) (c : Cursor) :
    (seq (seq a b) m).ends c = (seq a (seq b m)).ends c := by
  simp [ends, List.flatMap_assoc]

/-- If the run stops in front of the only character that `m` may begin with, `m` begins there. -/
theorem flatMap_runEnds {m : Pattern} {x : Char} {xs ys : List Char} {found : List Cursor}
    {before : Option Char} (hxs : ∀ c ∈ xs, p c = true) (hx : p x = false) (hm : m.StartsWith x)
    (hf : found.flatMap m.ends = []) :
    (runEnds p found before (xs ++ x :: ys)).flatMap m.ends =
      m.ends ⟨xs.getLast?.or before, x :: ys⟩ := by
  induction xs generalizing found before with
  | nil => simp [runEnds, hx, hf]
  | cons c xs ih =>
    have hpc : p c = true := hxs c List.mem_cons_self
    have hne : c ≠ x := by
      rintro rfl
      rw [hx] at hpc
      cases hpc
    have hfound : ((⟨before, c :: (xs ++ x :: ys)⟩ : Cursor) :: found).flatMap m.ends = [] := by
      rw [List.flatMap_cons, hm _ _ _ hne, hf]
      rfl
    rw [List.cons_append, runEnds, if_pos hpc, getLast?_cons_or]
    exact ih (fun c hc => hxs c (List.mem_cons_of_mem _ hc)) hfound

theorem ends_run_seq {m : Pattern} {x : Char} {xs ys : List Char} {before : Option Char}
    (hxs : ∀ c ∈ xs, p c = true) (hx : p x = false) (hm : m.StartsWith x) :
    (seq (run p) m).ends ⟨before, xs ++ x :: ys⟩ = m.ends ⟨xs.getLast?.or before, x :: ys⟩ :=
  flatMap_runEnds hxs hx hm rfl

theorem ends_many_seq {m : Pattern} {x : Char} {xs ys : List Char} {before : Option Char}
    (hne : xs ≠ []) (hxs : ∀ c ∈ xs, p c = true) (hx : p x = false) (hm : m.StartsWith x) :
    (seq (many p) m).ends ⟨before, xs ++ x :: ys⟩ = m.ends ⟨xs.getLast?.or before, x :: ys⟩ := by
  cases xs with
  | nil => exact absurd rfl hne
  | cons c xs =>
    have first : (one p).ends ⟨before, c :: xs ++ x :: ys⟩ = [⟨some c, xs ++ x :: ys⟩] := by
      simp [ends, oneEnd, hxs c List.mem_cons_self]
    rw [many, ends_seq_assoc, ends, first, List.flatMap_singleton, getLast?_cons_or]
    exact ends_run_seq (fun c hc => hxs c (List.mem_cons_of_mem _ hc)) hx hm

theorem ends_all_cons (a : Pattern) (rest : List Pattern) (c : Cursor) :
    (all (a :: rest)).ends c = (a.ends c).flatMap (all rest).ends := by
  cases rest with
  | nil => simp [all, ends]
  | cons b rest => rfl

theorem ends_word {s : String} {cs tail : List Char} {before : Option Char} (hs : s.toList = cs) :
    (word s).ends ⟨before, cs ++ tail⟩ = [⟨cs.getLast?.or before, tail⟩] := by
  rw [word, hs]
  clear hs
  induction cs generalizing before with
  | nil => simp [all, ends]
  | cons x cs ih =>
    rw [List.map_cons, ends_all_cons, List.cons_append, ends, oneEnd, if_pos (beq_self_eq_true x),
      List.flatMap_singleton, ih, getLast?_cons_or]

theorem ends_word_seq {s : String} {cs tail : List Char} {m : Pattern} {before : Option Char}
    (hs : s.toList = cs) :
    (seq (word s) m).ends ⟨before, cs ++ tail⟩ = m.ends ⟨cs.getLast?.or before, tail⟩ := by
  rw [ends, ends_word hs, List.flatMap_singleton]

theorem startsWith_word {s : String} {x : Char} {xs : List Char} (hs : s.toList = x :: xs) :
    (word s).StartsWith x := by
  intro before c rest hc
  rw [word, hs, List.map_cons, ends_all_cons, ends, oneEnd, if_neg (by simpa using hc)]
  rfl

theorem StartsWith.seq {a m : Pattern} {x : Char} (ha : a.StartsWith x) :
    (seq a m).StartsWith x := by
  intro before c rest hc
  rw [ends, ha before c rest hc]
  rfl

end Pattern
end Imagewright.Text
