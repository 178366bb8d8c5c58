import Imagewright.Compose.CorrelationId
import Imagewright.Packages.Spec
import Imagewright.Proofs.Disk.Paths
import Imagewright.Proofs.Text.Classes
import Imagewright.Proofs.Text.Matches
import Imagewright.Request.Validation

/-!
# Forms of texts

The patterns of tags, refs, checksums and modes hold from the start of a text to its end, and in
front of its end a line feed may stand. Between start and end each of them takes what has a form.
No form has a line break in it.

## Main definitions

* `TagForm`, `RefForm`, `ChecksumForm`, `ModeForm`: the forms.
* `UpToLineFeed`: a text has a form, with or without a line feed at its end.

## Main statements

* `Text.Pattern.accepts_anchored`: a pattern that holds from start to end.
* `Request.takes_segments_iff`: a repeated segment and a last one are a ref.
* `isCorrelationText_iff`, `Request.isRef_iff`, `isChecksum_iff`, `Request.isMode_iff`: the patterns
  and the forms.
-/
namespace Imagewright

open Text (Pattern)

/-! ## Forms -/

/-- A tag: ASCII letters and digits, points, underscores, colons and hyphens. -/
def TagForm (cs : List Char) : Prop :=
  cs ≠ [] ∧ ∀ c ∈ cs, c.isAlphanum = true ∨ c ∈ ['.', '_', ':', '-']

/-- A segment of a ref: a word character, then word characters, hyphens and points. -/
def SegmentForm (cs : List Char) : Prop :=
  ∃ first rest, cs = first :: rest ∧ Text.isWord first = true ∧
    ∀ c ∈ rest, Text.isWord c = true ∨ c ∈ ['-', '.']

/-- A ref: segments with single slashes between them. -/
def RefForm (cs : List Char) : Prop :=
  ∃ segments, segments ≠ [] ∧ (∀ s ∈ segments, SegmentForm s) ∧
    cs = List.intercalate ['/'] segments

/-- A checksum: an algorithm, a colon and hexadecimal digits in lower case. -/
def ChecksumForm (cs : List Char) : Prop :=
  ∃ algorithm ∈ ["sha1", "sha256", "sha384", "sha512"], ∃ digits, digits ≠ [] ∧
    (∀ c ∈ digits, ('0' ≤ c ∧ c ≤ '9') ∨ ('a' ≤ c ∧ c ≤ 'f')) ∧
    cs = algorithm.toList ++ ':' :: digits

/-- A mode: three or four octal digits, which one zero may precede. -/
def ModeForm (cs : List Char) : Prop :=
  ∃ zero digits, cs = zero ++ digits ∧ (zero = [] ∨ zero = ['0']) ∧
    (digits.length = 3 ∨ digits.length = 4) ∧ ∀ c ∈ digits, '0' ≤ c ∧ c ≤ '7'

/-- A text has a form, or it has it up to one line feed at its end. -/
def UpToLineFeed (form : List Char → Prop) (s : String) : Prop :=
  ∃ cs, form cs ∧ (s.toList = cs ∨ s.toList = cs ++ ['\n'])

/-- The characters that break lines. -/
def lineBreaks : List Char :=
  ['\n', '\x0b', '\x0c', '\r', '\x1c', '\x1d', '\x1e', '\u0085', '\u2028', '\u2029']

/-! ## Line breaks -/

theorem TagForm.notMem {cs : List Char} (h : TagForm cs) : ∀ c ∈ lineBreaks, c ∉ cs := by
  have hclass : ∀ c ∈ lineBreaks, c.isAlphanum = false ∧ c ∉ ['.', '_', ':', '-'] :=
    Text.forall_mem_of_all (by decide)
  intro c hc hmem
  rcases h.2 c hmem with h | h
  · rw [(hclass c hc).1] at h
    cases h
  · exact (hclass c hc).2 h

theorem RefForm.notMem {cs : List Char} (h : RefForm cs) : ∀ c ∈ lineBreaks, c ∉ cs := by
  have hclass : ∀ c ∈ lineBreaks, Text.isWord c = false ∧ c ∉ ['-', '.'] ∧ c ∉ ['/'] :=
    Text.forall_mem_of_all (by decide +kernel)
  obtain ⟨segments, -, hsegments, rfl⟩ := h
  intro c hc hmem
  obtain ⟨hword, hmark, hslash⟩ := hclass c hc
  obtain ⟨s, hs, hcs⟩ := (Text.mem_of_mem_intercalate hmem).resolve_left hslash
  obtain ⟨first, rest, rfl, hfirst, hrest⟩ := hsegments s hs
  rcases List.mem_cons.1 hcs with rfl | hcs
  · rw [hword] at hfirst
    cases hfirst
  · rcases hrest c hcs with h | h
    · rw [hword] at h
      cases h
    · exact hmark h

theorem ChecksumForm.notMem {cs : List Char} (h : ChecksumForm cs) : ∀ c ∈ lineBreaks, c ∉ cs := by
  have halgorithms : ∀ c ∈ lineBreaks, ∀ algorithm ∈ ["sha1", "sha256", "sha384", "sha512"],
      c ∉ algorithm.toList := Text.forall_mem_of_all (by decide)
  have hclass : ∀ c ∈ lineBreaks, c ≠ ':' ∧ ¬(('0' ≤ c ∧ c ≤ '9') ∨ ('a' ≤ c ∧ c ≤ 'f')) :=
    Text.forall_mem_of_all (by decide)
  obtain ⟨algorithm, halgorithm, digits, -, hdigits, rfl⟩ := h
  intro c hc hmem
  obtain ⟨hcolon, hdigit⟩ := hclass c hc
  rcases List.mem_append.1 hmem with hmem | hmem
  · exact halgorithms c hc algorithm halgorithm hmem
  · rcases List.mem_cons.1 hmem with hmem | hmem
    · exact hcolon hmem
    · exact hdigit (hdigits c hmem)

theorem ModeForm.notMem {cs : List Char} (h : ModeForm cs) : ∀ c ∈ lineBreaks, c ∉ cs := by
  have hclass : ∀ c ∈ lineBreaks, c ∉ ['0'] ∧ ¬('0' ≤ c ∧ c ≤ '7') :=
    Text.forall_mem_of_all (by decide)
  obtain ⟨zero, digits, rfl, hzero, -, hdigits⟩ := h
  intro c hc hmem
  obtain ⟨hc0, hdigit⟩ := hclass c hc
  rcases List.mem_append.1 hmem with hmem | hmem
  · rcases hzero with rfl | rfl
    · cases hmem
    · exact hc0 hmem
  · exact hdigit (hdigits c hmem)

/-! ## Patterns from start to end -/

namespace Text.Pattern

/-- Where each part of a pattern stands between the start and the end, a text has to have the form
of what the parts take. One line feed may follow it. -/
theorem accepts_anchored (parts : List Pattern) {form : List Char → Prop} {s : String}
    (h : ∀ before cs after, (all parts).Takes before cs after ↔ form cs) :
    (all (start :: (parts ++ [ending]))).accepts s = true ↔ UpToLineFeed form s := by
  rw [accepts_iff]
  constructor
  · rintro ⟨xs, ys, hs, htakes⟩
    obtain ⟨_, zs, rfl, ⟨rfl, -⟩, hzs⟩ := takes_all_cons.1 htakes
    obtain ⟨cs, es, rfl, hcs, rfl, hend⟩ := takes_all_append.1 hzs
    rw [List.nil_append, List.append_nil] at hs
    refine ⟨cs, (h _ _ _).1 hcs, ?_⟩
    rcases hend with rfl | rfl
    · exact .inl (by rw [hs, List.append_nil])
    · exact .inr hs
  · rintro ⟨cs, hcs, hs⟩
    have htakes : ∀ tail, tail = [] ∨ tail = ['\n'] →
        (all (start :: (parts ++ [ending]))).Takes none cs tail := by
      intro tail htail
      refine takes_all_cons.2 ⟨[], cs, rfl, ⟨rfl, rfl⟩, takes_all_append.2 ⟨cs, [], ?_, ?_, ?_⟩⟩
      · rw [List.append_nil]
      · exact (h _ _ _).2 hcs
      · exact ⟨rfl, htail⟩
    rcases hs with hs | hs
    · exact ⟨cs, [], by rw [hs, List.append_nil], htakes [] (.inl rfl)⟩
    · exact ⟨cs, ['\n'], hs, htakes ['\n'] (.inr rfl)⟩

end Text.Pattern

/-! ## Tags -/

theorem isCorrelationChar_iff {c : Char} :
    isCorrelationChar c = true ↔ c.isAlphanum = true ∨ c ∈ ['.', '_', ':', '-'] := by
  simp [isCorrelationChar, Text.isAsciiAlnum_eq, or_assoc]

theorem isCorrelationText_iff {s : String} :
    isCorrelationText s = true ↔ UpToLineFeed TagForm s := by
  refine Pattern.accepts_anchored [.many isCorrelationChar] fun _ cs _ => ?_
  simp only [Pattern.all, Pattern.takes_many_iff, isCorrelationChar_iff, TagForm]

/-! ## Refs -/

namespace Request

variable {before : Option Char} {cs after : List Char}

theorem isRefChar_iff {c : Char} :
    isRefChar c = true ↔ Text.isWord c = true ∨ c ∈ ['-', '.'] := by
  simp only [isRefChar, Bool.or_eq_true, beq_iff_eq, List.mem_cons, List.not_mem_nil, or_false]
  exact or_comm

theorem takes_refSegment_iff : refSegment.Takes before cs after ↔ SegmentForm cs := by
  constructor
  · rintro ⟨_, rest, rfl, ⟨first, rfl, hfirst⟩, hrest⟩
    exact ⟨first, rest, rfl, hfirst, fun c hc => isRefChar_iff.1 (hrest c hc)⟩
  · rintro ⟨first, rest, rfl, hfirst, hrest⟩
    exact ⟨[first], rest, rfl, ⟨first, rfl, hfirst⟩, fun c hc => isRefChar_iff.2 (hrest c hc)⟩

/-- A segment and the slash behind it. -/
theorem takes_slashed_iff : (Pattern.seq refSegment (.word "/")).Takes before cs after ↔
    ∃ segment, cs = segment ++ ['/'] ∧ SegmentForm segment := by
  constructor
  · rintro ⟨segment, _, rfl, hsegment, hslash⟩
    obtain rfl := Pattern.takes_word_iff.1 hslash
    exact ⟨segment, rfl, takes_refSegment_iff.1 hsegment⟩
  · rintro ⟨segment, rfl, hsegment⟩
    exact Pattern.takes_seq (takes_refSegment_iff.2 hsegment) (Pattern.takes_word "/")

theorem refForm_singleton (h : SegmentForm cs) : RefForm cs :=
  ⟨[cs], by simp, by simpa using h, by simp⟩

theorem refForm_cons {segment : List Char} (hs : SegmentForm segment) (h : RefForm cs) :
    RefForm (segment ++ '/' :: cs) := by
  obtain ⟨segments, hne, hsegments, rfl⟩ := h
  obtain ⟨next, rest, rfl⟩ := List.exists_cons_of_ne_nil hne
  refine ⟨segment :: next :: rest, by simp, List.forall_mem_cons.2 ⟨hs, hsegments⟩, ?_⟩
  rw [List.intercalate_cons_cons, List.append_assoc, List.singleton_append]

/-- Segments with slashes behind them and a last segment without one are a ref. -/
theorem refForm_of_rounds {last : List Char} (hlast : SegmentForm last)
    (h : Pattern.Rounds (Pattern.seq refSegment (.word "/")).Takes before cs after) :
    RefForm (cs ++ last) := by
  induction h with
  | nil => exact refForm_singleton hlast
  | cons hne hys hzs ih =>
    obtain ⟨segment, rfl, hsegment⟩ := takes_slashed_iff.1 hys
    simpa using refForm_cons hsegment ih

/-- A ref is cut behind each of its slashes. -/
theorem exists_rounds_of_refForm (h : RefForm cs) (before : Option Char) (after : List Char) :
    ∃ xs last, cs = xs ++ last ∧ SegmentForm last ∧
      Pattern.Rounds (Pattern.seq refSegment (.word "/")).Takes before xs (last ++ after) := by
  obtain ⟨segments, hne, hsegments, rfl⟩ := h
  induction segments generalizing before with
  | nil => exact absurd rfl hne
  | cons segment rest ih =>
    obtain ⟨hsegment, hrest⟩ := List.forall_mem_cons.1 hsegments
    cases rest with
    | nil => exact ⟨[], segment, by simp, hsegment, .nil⟩
    | cons next rest =>
      have hslashed : ∀ {before : Option Char} {after : List Char},
          (Pattern.seq refSegment (.word "/")).Takes before (segment ++ ['/']) after :=
        takes_slashed_iff.2 ⟨segment, rfl, hsegment⟩
      obtain ⟨xs, last, heq, hlast, hrounds⟩ :=
        ih ((segment ++ ['/']).getLast?.or before) (by simp) hrest
      refine ⟨segment ++ ['/'] ++ xs, last, ?_, hlast, .cons (by simp) hslashed hrounds⟩
      rw [List.intercalate_cons_cons, heq]
      simp

/-- A repeated segment with a slash and a last segment take what is a ref. -/
theorem takes_segments_iff :
    (Pattern.all [.repeated (.seq refSegment (.word "/")), refSegment]).Takes before cs after ↔
      RefForm cs := by
  constructor
  · rintro ⟨xs, last, rfl, hrounds, hlast⟩
    exact refForm_of_rounds (takes_refSegment_iff.1 hlast) hrounds
  · intro h
    obtain ⟨xs, last, rfl, hlast, hrounds⟩ := exists_rounds_of_refForm h before after
    exact ⟨xs, last, rfl, hrounds, takes_refSegment_iff.2 hlast⟩

theorem isRef_iff {s : String} : isRef s = true ↔ UpToLineFeed RefForm s :=
  Pattern.accepts_anchored [.repeated (.seq refSegment (.word "/")), refSegment]
    fun _ _ _ => takes_segments_iff

end Request

/-! ## Checksums -/

theorem isChecksumDigit_iff {c : Char} :
    isChecksumDigit c = true ↔ ('0' ≤ c ∧ c ≤ '9') ∨ ('a' ≤ c ∧ c ≤ 'f') := by
  simp [isChecksumDigit]

theorem isChecksum_iff {s : String} : isChecksum s = true ↔ UpToLineFeed ChecksumForm s := by
  have hparts : ∀ before cs after, (Pattern.all [
      .first (["sha1", "sha256", "sha384", "sha512"].map Pattern.word), .word ":",
      .many isChecksumDigit]).Takes before cs after ↔ ChecksumForm cs := by
    intro before cs after
    constructor
    · intro h
      obtain ⟨_, _, rfl, hword, hrest⟩ := Pattern.takes_all_cons.1 h
      obtain ⟨algorithm, halgorithm, rfl⟩ := Pattern.takes_words_iff.1 hword
      obtain ⟨_, digits, rfl, hcolon, hdigits⟩ := Pattern.takes_all_cons.1 hrest
      obtain rfl := Pattern.takes_word_iff.1 hcolon
      obtain ⟨hne, hdigits⟩ := Pattern.takes_many_iff.1 hdigits
      exact ⟨algorithm, halgorithm, digits, hne, fun c hc => isChecksumDigit_iff.1 (hdigits c hc),
        rfl⟩
    · rintro ⟨algorithm, halgorithm, digits, hne, hdigits, rfl⟩
      refine Pattern.takes_all_cons.2 ⟨_, _, rfl, Pattern.takes_words_iff.2 ⟨_, halgorithm, rfl⟩,
        Pattern.takes_all_cons.2 ⟨[':'], digits, rfl, Pattern.takes_word ":", ?_⟩⟩
      exact Pattern.takes_many hne fun c hc => isChecksumDigit_iff.2 (hdigits c hc)
  exact Pattern.accepts_anchored _ hparts

/-! ## Modes -/

theorem isOctalDigit_iff {c : Char} :
    Request.isOctalDigit c = true ↔ '0' ≤ c ∧ c ≤ '7' := by
  simp [Request.isOctalDigit]

/-- Three digits, and perhaps a fourth one. -/
theorem takes_digits_iff {before : Option Char} {cs after : List Char} :
    (Pattern.all [
      .one Request.isOctalDigit, .one Request.isOctalDigit, .one Request.isOctalDigit,
      .optional Request.isOctalDigit]).Takes before cs after ↔
      (cs.length = 3 ∨ cs.length = 4) ∧ ∀ c ∈ cs, '0' ≤ c ∧ c ≤ '7' := by
  simp only [← isOctalDigit_iff]
  constructor
  · rintro ⟨_, _, rfl, ⟨a, rfl, ha⟩, _, _, rfl, ⟨b, rfl, hb⟩, _, _, rfl, ⟨c, rfl, hc⟩, hfourth⟩
    rcases Pattern.takes_optional_iff.1 hfourth with rfl | ⟨d, rfl, hd⟩
    · simp [ha, hb, hc]
    · simp [ha, hb, hc, hd]
  · rintro ⟨hlength, hdigits⟩
    obtain _ | ⟨a, _ | ⟨b, _ | ⟨c, fourth⟩⟩⟩ := cs
    case cons.cons.cons =>
      simp only [List.forall_mem_cons] at hdigits
      obtain ⟨ha, hb, hc, hfourth⟩ := hdigits
      refine ⟨[a], _, rfl, ⟨a, rfl, ha⟩, [b], _, rfl, ⟨b, rfl, hb⟩, [c], fourth, rfl, ⟨c, rfl, hc⟩,
        Pattern.takes_optional_iff.2 ?_⟩
      rcases hlength with hlength | hlength
      · exact .inl (List.length_eq_zero_iff.1 (by simpa using hlength))
      · obtain ⟨d, rfl⟩ := List.length_eq_one_iff.1 (by simpa using hlength)
        exact .inr ⟨d, rfl, hfourth d List.mem_cons_self⟩
    all_goals simp at hlength

theorem Request.isMode_iff {s : String} : isMode s = true ↔ UpToLineFeed ModeForm s := by
  refine Pattern.accepts_anchored [
    .optional (· == '0'), .one isOctalDigit, .one isOctalDigit, .one isOctalDigit,
    .optional isOctalDigit] fun before cs after => ?_
  rw [Pattern.takes_all_cons]
  simp only [Pattern.takes_optional_iff, takes_digits_iff, beq_iff_eq, ModeForm]
  grind

end Imagewright
