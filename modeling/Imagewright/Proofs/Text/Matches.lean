import Imagewright.Proofs.Text.Patterns

/-!
# What patterns take

A pattern takes a text between two others, by the rule of its form. Its ends are exactly the places
behind what it may take, and the preferred one is behind as much of its last run as there is.

## Main definitions

* `Pattern.Rounds`: texts in a row, each of them taken by the same pattern.
* `Pattern.Takes`: a pattern takes a text that stands between two others.
* `Pattern.EndsInRun`: the last part of a pattern is a run of a class.
* `Pattern.Begins`: what a pattern takes begins with a character of a class.

## Main statements

* `Pattern.mem_ends_iff`: the ends of a pattern are behind what it takes.
* `Pattern.accepts_iff`: what works at the start of a text takes the beginning of it.
* `Pattern.stops_of_endsInRun`: the preferred end of a last run is where its class stops.
-/
namespace Imagewright.Text.Pattern

/-- A text that stands behind a character and in front of another text consists of texts in a row,
each of which is taken in one round. No round takes nothing. -/
inductive Rounds (round : Option Char → List Char → List Char → Prop) :
    (before : Option Char) → (taken after : List Char) → Prop
  | nil {before : Option Char} {after : List Char} : Rounds round before [] after
  | cons {before : Option Char} {ys zs after : List Char} (hne : ys ≠ [])
      (hys : round before ys (zs ++ after)) (hzs : Rounds round (ys.getLast?.or before) zs after) :
      Rounds round before (ys ++ zs) after

/-- A pattern takes a text that stands behind a character and in front of another text. -/
def Takes : Pattern → (before : Option Char) → (taken after : List Char) → Prop
  | nothing, _, xs, _ => xs = []
  | boundary, before, xs, after => xs = [] ∧ isBoundary before after.head? = true
  | start, before, xs, _ => xs = [] ∧ before = none
  | ending, _, xs, after => xs = [] ∧ (after = [] ∨ after = ['\n'])
  | one p, _, xs, _ => ∃ c, xs = [c] ∧ p c = true
  | run p, _, xs, _ => ∀ c ∈ xs, p c = true
  | seq a b, before, xs, after => ∃ ys zs, xs = ys ++ zs ∧ a.Takes before ys (zs ++ after) ∧
      b.Takes (ys.getLast?.or before) zs after
  | either a b, before, xs, after => a.Takes before xs after ∨ b.Takes before xs after
  | repeated a, before, xs, after => Rounds a.Takes before xs after

/-- The last part of a pattern is a run of a class. -/
def EndsInRun (p : Char → Bool) : Pattern → Prop
  | run q => q = p
  | seq _ b => b.EndsInRun p
  | nothing | boundary | start | ending | one _ | either _ _ | repeated _ => False

variable {p : Char → Bool} {a b : Pattern} {before : Option Char} {cs xs ys zs after : List Char}
  {c e : Cursor}

/-! ## Runs -/

theorem getLast?_append_or (xs ys : List Char) (before : Option Char) :
    (xs ++ ys).getLast?.or before = ys.getLast?.or (xs.getLast?.or before) := by
  rw [List.getLast?_append, Option.or_assoc]

theorem exists_taken_nil {P : List Char → Prop} :
    (∃ xs, [] = xs ++ e.rest ∧ e.before = xs.getLast?.or before ∧ P xs) ↔
      e = ⟨before, []⟩ ∧ P [] := by
  obtain ⟨last, rest⟩ := e
  constructor
  · rintro ⟨xs, hnil, hbefore, hP⟩
    obtain ⟨rfl, rfl⟩ := List.append_eq_nil_iff.1 hnil.symm
    exact ⟨congrArg (Cursor.mk · []) hbefore, hP⟩
  · rintro ⟨h, hP⟩
    obtain ⟨rfl, rfl⟩ := Cursor.mk.inj h
    exact ⟨[], rfl, rfl, hP⟩

/-- What is taken from a text that is not empty: nothing, or its first character and more. -/
theorem exists_taken_cons {P : List Char → Prop} {c : Char} :
    (∃ xs, c :: cs = xs ++ e.rest ∧ e.before = xs.getLast?.or before ∧ P xs) ↔
      e = ⟨before, c :: cs⟩ ∧ P [] ∨
        ∃ xs, cs = xs ++ e.rest ∧ e.before = xs.getLast?.or (some c) ∧ P (c :: xs) := by
  obtain ⟨last, rest⟩ := e
  constructor
  · rintro ⟨xs, hcs, hbefore, hP⟩
    cases xs with
    | nil => simp_all
    | cons x xs =>
      obtain ⟨rfl, hrest⟩ := List.cons.inj hcs
      exact .inr ⟨xs, hrest, hbefore.trans (getLast?_cons_or c xs before), hP⟩
  · rintro (⟨h, hP⟩ | ⟨xs, hcs, hbefore, hP⟩)
    · exact ⟨[], by simp_all⟩
    · exact ⟨c :: xs, by rw [hcs, List.cons_append],
        hbefore.trans (getLast?_cons_or c xs before).symm, hP⟩

theorem mem_runEnds {found : List Cursor} :
    e ∈ runEnds p found before cs ↔ e ∈ found ∨
      ∃ xs, cs = xs ++ e.rest ∧ e.before = xs.getLast?.or before ∧ ∀ c ∈ xs, p c = true := by
  induction cs generalizing found before with
  | nil =>
    rw [runEnds, exists_taken_nil, List.mem_cons]
    grind
  | cons c cs ih =>
    rw [runEnds, exists_taken_cons]
    split
    · next hc =>
      rw [ih, List.mem_cons]
      grind
    · next hc =>
      rw [List.mem_cons]
      grind

theorem head?_runEnds {found : List Cursor} (h : (runEnds p found before cs).head? = some e) :
    ∀ c ∈ e.rest.head?, p c = false := by
  induction cs generalizing found before with
  | nil =>
    simp [runEnds] at h
    simp [← h]
  | cons c cs ih =>
    rw [runEnds] at h
    split at h
    · exact ih h
    · next hc =>
      simp at h
      simpa [← h] using hc

/-! ## Places -/

/-- A check of a place takes nothing. -/
theorem mem_ends_check {q : Bool} {P : List Char → Prop} (hq : q = true ↔ P cs) :
    e ∈ (if q then [(⟨before, cs⟩ : Cursor)] else []) ↔
      ∃ xs, cs = xs ++ e.rest ∧ e.before = xs.getLast?.or before ∧ xs = [] ∧ P e.rest := by
  obtain ⟨last, rest⟩ := e
  split
  · next h =>
    rw [List.mem_singleton, Cursor.mk.injEq]
    constructor
    · rintro ⟨rfl, rfl⟩
      exact ⟨[], rfl, rfl, rfl, hq.1 h⟩
    · rintro ⟨_, rfl, hlast, rfl, -⟩
      exact ⟨hlast, rfl⟩
  · next h =>
    refine iff_of_false List.not_mem_nil ?_
    rintro ⟨_, rfl, -, rfl, hP⟩
    exact h (hq.2 hP)

/-- The rounds that lead to an end of a repetition, where the ends of one round are known. -/
theorem exists_rounds_of_mem_ends
    (ha : ∀ {before : Option Char} {cs : List Char} {e : Cursor}, e ∈ a.ends ⟨before, cs⟩ →
      ∃ xs, cs = xs ++ e.rest ∧ e.before = xs.getLast?.or before ∧ a.Takes before xs e.rest)
    (he : e ∈ (repeated a).ends ⟨before, cs⟩) :
    ∃ xs, cs = xs ++ e.rest ∧ e.before = xs.getLast?.or before ∧
      Rounds a.Takes before xs e.rest := by
  -- each round leaves fewer characters
  induction hlength : cs.length using Nat.strongRecOn generalizing before cs with
  | ind n ih =>
    rcases mem_ends_repeated.1 he with rfl | ⟨⟨last, tail⟩, hm, hshorter, hmore⟩
    · exact ⟨[], rfl, rfl, .nil⟩
    · obtain ⟨ys, hcs, hbefore, hys⟩ := ha hm
      have hfewer : tail.length < cs.length := of_decide_eq_true hshorter
      obtain ⟨zs, hzs, hlast, hrounds⟩ := ih _ (hlength ▸ hfewer) hmore rfl
      have hne : ys ≠ [] := by
        rintro rfl
        exact absurd (congrArg List.length hcs) (Nat.ne_of_gt hfewer)
      change tail = zs ++ e.rest at hzs
      change last = _ at hbefore
      subst hzs hbefore
      refine ⟨ys ++ zs, by rw [hcs, List.append_assoc], ?_, .cons hne hys hrounds⟩
      rw [hlast, getLast?_append_or]

/-- A repetition ends behind any number of rounds. -/
theorem mem_ends_of_rounds
    (ha : ∀ {before : Option Char} {xs after : List Char}, a.Takes before xs after →
      ⟨xs.getLast?.or before, after⟩ ∈ a.ends ⟨before, xs ++ after⟩)
    (h : Rounds a.Takes before xs after) :
    ⟨xs.getLast?.or before, after⟩ ∈ (repeated a).ends ⟨before, xs ++ after⟩ := by
  induction h with
  | nil => exact mem_ends_repeated.2 (.inl rfl)
  | @cons before ys zs after hne hys hzs ih =>
    have hround := ha hys
    rw [← List.append_assoc] at hround
    refine mem_ends_repeated.2 (.inr ⟨_, hround, ?_, ?_⟩)
    · have hlength := List.length_pos_iff.2 hne
      simp only [furtherOn, List.length_append, decide_eq_true_eq]
      omega
    · rw [getLast?_append_or]
      exact ih

/-- The ends of a pattern are the places behind what it takes. -/
theorem mem_ends_iff : e ∈ a.ends ⟨before, cs⟩ ↔
    ∃ xs, cs = xs ++ e.rest ∧ e.before = xs.getLast?.or before ∧ a.Takes before xs e.rest := by
  induction a generalizing before cs e with
  | nothing =>
    obtain ⟨last, rest⟩ := e
    simp only [ends, List.mem_singleton, Cursor.mk.injEq, Takes]
    grind
  | boundary => exact mem_ends_check (P := fun after => isBoundary before after.head?) Iff.rfl
  | start => exact mem_ends_check (P := fun _ => before = none) Option.isNone_iff_eq_none
  | ending => exact mem_ends_check (P := fun after => after = [] ∨ after = ['\n']) (by simp)
  | one p =>
    obtain ⟨last, rest⟩ := e
    simp only [ends, mem_oneEnd, Takes]
    constructor
    · rintro ⟨c, rest, rfl, hc, h⟩
      simp_all
    · rintro ⟨_, rfl, hbefore, c, rfl, hc⟩
      exact ⟨c, rest, rfl, hc, by simp [hbefore]⟩
  | run p =>
    rw [ends, mem_runEnds]
    simp [Takes]
  | seq a b iha ihb =>
    rw [mem_ends_seq]
    constructor
    · rintro ⟨⟨mid, tail⟩, hm, he⟩
      obtain ⟨ys, rfl, rfl, hys⟩ := iha.1 hm
      obtain ⟨zs, rfl, hbefore, hzs⟩ := ihb.1 he
      refine ⟨ys ++ zs, (List.append_assoc _ _ _).symm, ?_, ys, zs, rfl, hys, hzs⟩
      rw [hbefore, getLast?_append_or]
    · rintro ⟨_, rfl, hbefore, ys, zs, rfl, hys, hzs⟩
      refine ⟨⟨ys.getLast?.or before, zs ++ e.rest⟩, iha.2 ⟨ys, ?_, rfl, hys⟩,
        ihb.2 ⟨zs, rfl, ?_, hzs⟩⟩
      · exact List.append_assoc _ _ _
      · rw [hbefore, getLast?_append_or]
  | either a b iha ihb =>
    rw [mem_ends_either, iha, ihb]
    simp only [Takes]
    grind
  | repeated a iha =>
    constructor
    · exact exists_rounds_of_mem_ends iha.1
    · rintro ⟨xs, rfl, hbefore, hrounds⟩
      have hend := mem_ends_of_rounds (fun h => iha.2 ⟨_, rfl, rfl, h⟩) hrounds
      rwa [← hbefore] at hend

/-- A pattern works at the start of a text if it takes a beginning of it. -/
theorem accepts_iff {s : String} :
    a.accepts s = true ↔ ∃ xs ys, s.toList = xs ++ ys ∧ a.Takes none xs ys := by
  rw [accepts, Bool.not_eq_true', List.isEmpty_eq_false_iff_exists_mem]
  constructor
  · rintro ⟨e, he⟩
    obtain ⟨xs, hs, -, htakes⟩ := mem_ends_iff.1 he
    exact ⟨xs, e.rest, hs, htakes⟩
  · rintro ⟨xs, ys, hs, htakes⟩
    exact ⟨⟨xs.getLast?.or none, ys⟩, mem_ends_iff.2 ⟨xs, hs, rfl, htakes⟩⟩

theorem stops_of_endsInRun (ha : a.EndsInRun p) (h : (a.ends c).head? = some e) :
    ∀ x ∈ e.rest.head?, p x = false := by
  induction a generalizing c with
  | run q =>
    obtain rfl : q = p := ha
    exact head?_runEnds h
  | seq a b _ ihb =>
    rw [ends, List.head?_flatMap] at h
    obtain ⟨m, -, hm⟩ := List.exists_of_findSome?_eq_some h
    exact ihb ha hm
  | nothing | boundary | start | ending | one | either | repeated => cases ha

/-! ## Parts -/

theorem takes_seq (ha : a.Takes before ys (zs ++ after))
    (hb : b.Takes (ys.getLast?.or before) zs after) : (seq a b).Takes before (ys ++ zs) after :=
  ⟨ys, zs, rfl, ha, hb⟩

theorem takes_many_iff : (many p).Takes before xs after ↔ xs ≠ [] ∧ ∀ c ∈ xs, p c = true := by
  constructor
  · rintro ⟨_, rest, rfl, ⟨c, rfl, hc⟩, hrest⟩
    exact ⟨by simp, List.forall_mem_cons.2 ⟨hc, hrest⟩⟩
  · rintro ⟨hne, h⟩
    obtain ⟨c, xs, rfl⟩ := List.exists_cons_of_ne_nil hne
    obtain ⟨hc, hxs⟩ := List.forall_mem_cons.1 h
    exact ⟨[c], xs, rfl, ⟨c, rfl, hc⟩, hxs⟩

theorem takes_all_cons {rest : List Pattern} :
    (all (a :: rest)).Takes before xs after ↔ ∃ ys zs, xs = ys ++ zs ∧
      a.Takes before ys (zs ++ after) ∧ (all rest).Takes (ys.getLast?.or before) zs after := by
  cases rest with
  | nil =>
    constructor
    · exact fun h => ⟨xs, [], (List.append_nil xs).symm, h, rfl⟩
    · rintro ⟨ys, zs, rfl, hys, rfl⟩
      rwa [List.append_nil]
  | cons b rest => exact Iff.rfl

/-- Of two rows of patterns, each takes its part. -/
theorem takes_all_append {as bs : List Pattern} : (all (as ++ bs)).Takes before xs after ↔
    ∃ ys zs, xs = ys ++ zs ∧ (all as).Takes before ys (zs ++ after) ∧
      (all bs).Takes (ys.getLast?.or before) zs after := by
  induction as generalizing before xs with
  | nil =>
    constructor
    · exact fun h => ⟨[], xs, rfl, rfl, h⟩
    · rintro ⟨_, zs, rfl, rfl, hzs⟩
      exact hzs
  | cons a as ih =>
    rw [List.cons_append, takes_all_cons]
    constructor
    · rintro ⟨ys, _, rfl, hys, hrest⟩
      obtain ⟨us, vs, rfl, hus, hvs⟩ := ih.1 hrest
      rw [List.append_assoc] at hys
      refine ⟨ys ++ us, vs, (List.append_assoc _ _ _).symm, ?_, ?_⟩
      · exact takes_all_cons.2 ⟨ys, us, rfl, hys, hus⟩
      · rwa [getLast?_append_or]
    · rintro ⟨_, vs, rfl, hus, hvs⟩
      obtain ⟨ys, us, rfl, hys, hus⟩ := takes_all_cons.1 hus
      rw [getLast?_append_or] at hvs
      refine ⟨ys, us ++ vs, List.append_assoc _ _ _, ?_, ih.2 ⟨us, vs, rfl, hus, hvs⟩⟩
      rwa [List.append_assoc]

theorem takes_optional_iff : (optional p).Takes before xs after ↔
    xs = [] ∨ ∃ c, xs = [c] ∧ p c = true := or_comm

theorem takes_word_iff {s : String} : (word s).Takes before xs after ↔ xs = s.toList := by
  unfold word
  induction s.toList generalizing before xs with
  | nil => exact Iff.rfl
  | cons c cs ih =>
    rw [List.map_cons, takes_all_cons]
    constructor
    · rintro ⟨_, zs, rfl, ⟨d, rfl, hd⟩, hzs⟩
      rw [ih.1 hzs, beq_iff_eq.1 hd, List.singleton_append]
    · rintro rfl
      exact ⟨[c], cs, rfl, ⟨c, rfl, beq_self_eq_true c⟩, ih.2 rfl⟩

theorem takes_word (s : String) : (word s).Takes before s.toList after :=
  takes_word_iff.2 rfl

/-- One of some words. -/
theorem takes_words_iff {words : List String} :
    (first (words.map word)).Takes before xs after ↔ ∃ w ∈ words, xs = w.toList := by
  induction words with
  | nil =>
    refine iff_of_false ?_ (by simp)
    rintro ⟨c, -, hc⟩
    cases hc
  | cons w words ih =>
    cases words with
    | nil =>
      have hone : first ([w].map word) = word w := rfl
      rw [hone, takes_word_iff]
      simp
    | cons w' words =>
      have heither : first ((w :: w' :: words).map word) =
        either (word w) (first ((w' :: words).map word)) := rfl
      rw [heither, Takes, ih, takes_word_iff]
      simp

theorem takes_many (hne : xs ≠ []) (h : ∀ c ∈ xs, p c = true) : (many p).Takes before xs after :=
  takes_many_iff.2 ⟨hne, h⟩

/-- The last character of what a run takes is in its class. -/
theorem getLast?_of_takes_many (h : (many p).Takes before xs after) :
    ∃ c, xs.getLast? = some c ∧ p c = true := by
  obtain ⟨hne, hxs⟩ := takes_many_iff.1 h
  exact ⟨_, List.getLast?_eq_some_getLast hne, hxs _ (List.getLast_mem hne)⟩

/-! ## Beginnings -/

/-- What a pattern takes is not empty and begins with a character of a class. -/
def Begins (p : Char → Bool) (a : Pattern) : Prop :=
  ∀ ⦃before xs after⦄, a.Takes before xs after → ∃ c rest, xs = c :: rest ∧ p c = true

theorem begins_one {q : Char → Bool} (h : ∀ c, q c = true → p c = true) : (one q).Begins p := by
  rintro _ _ _ ⟨c, rfl, hc⟩
  exact ⟨c, [], rfl, h c hc⟩

theorem Begins.seq (ha : a.Begins p) (b : Pattern) : (seq a b).Begins p := by
  rintro _ _ _ ⟨ys, zs, rfl, hys, -⟩
  obtain ⟨c, rest, rfl, hc⟩ := ha hys
  exact ⟨c, rest ++ zs, rfl, hc⟩

theorem begins_boundary_seq (hb : b.Begins p) : (Pattern.seq boundary b).Begins p := by
  rintro _ _ _ ⟨_, zs, rfl, ⟨rfl, -⟩, hzs⟩
  exact hb hzs

theorem begins_either (ha : a.Begins p) (hb : b.Begins p) : (either a b).Begins p := by
  rintro _ _ _ (h | h)
  · exact ha h
  · exact hb h

theorem begins_word {s : String} {c : Char} {cs : List Char} (hs : s.toList = c :: cs)
    (hc : p c = true) : (word s).Begins p := by
  have hfirst : (one (· == c)).Begins p := begins_one fun d hd => by rwa [beq_iff_eq.1 hd]
  rw [word, hs]
  cases cs with
  | nil => exact hfirst
  | cons => exact hfirst.seq _

end Imagewright.Text.Pattern
