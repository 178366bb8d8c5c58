import Imagewright.Proofs.Number.Rounding
import Imagewright.Proofs.Settings
import Imagewright.Proofs.Text.Classes
import Mathlib.Data.List.TakeWhile

/-!
# The timeout of loaded settings

The timeout that a file of settings asks for is a decimal, an infinity or no number. The check that
it is not at most zero lets through what is no number, and that is what the word `nan` asks for.

## Main definitions

* `Text.WritesNan`: a numeral is the word for what is no number.
* `Settings.AsksFor`: a file has a timeout, written as some numeral.
* `Timeout.Undefined`, `Timeout.Positive`: a timeout is no number; it is a number above zero.

## Main statements

* `Text.readDouble_eq_ok`, `Text.extended?_readDouble_eq_none`: what numerals are read as.
* `Settings.timeout_of_load`: where the timeout of loaded settings comes from.
* `Settings.undefined_iff_of_load`: when it is no number.
-/
namespace Imagewright

/-! ## Numerals -/

namespace Text

/-- But for blanks around it and a sign, a numeral is the word for what is no number, in any mix of
cases. -/
def WritesNan (numeral : String) : Prop :=
  ∃ before sign word after, numeral.toList = before ++ (sign ++ word) ++ after ∧
    (∀ c ∈ before ++ after, isNumeralBlank c = true) ∧ sign ∈ [[], ['+'], ['-']] ∧
    word.map asciiLower = "nan".toList

theorem exists_trimNumeral (cs : List Char) :
    ∃ before after, cs = before ++ trimNumeral cs ++ after ∧
      ∀ c ∈ before ++ after, isNumeralBlank c = true := by
  refine ⟨cs.takeWhile isNumeralBlank,
    ((cs.dropWhile isNumeralBlank).reverse.takeWhile isNumeralBlank).reverse, ?_, ?_⟩
  · rw [trimNumeral, List.append_assoc, ← List.reverse_append, List.takeWhile_append_dropWhile,
      List.reverse_reverse, List.takeWhile_append_dropWhile]
  · intro c hc
    rcases List.mem_append.1 hc with hc | hc
    · exact List.mem_takeWhile_imp hc
    · exact List.mem_takeWhile_imp (List.mem_reverse.1 hc)

theorem trimNumeral_append {before middle after : List Char}
    (hblank : ∀ c ∈ before ++ after, isNumeralBlank c = true)
    (hfirst : ∀ c ∈ middle.head?, isNumeralBlank c = false)
    (hlast : ∀ c ∈ middle.getLast?, isNumeralBlank c = false) (hm : middle ≠ []) :
    trimNumeral (before ++ middle ++ after) = middle := by
  have hhead : (middle ++ after).head? = middle.head? := List.head?_append_of_ne_nil _ hm
  rw [trimNumeral, List.append_assoc,
    dropWhile_append_stop (fun c hc => hblank c (List.mem_append_left _ hc)) (by rwa [hhead]),
    List.reverse_append, dropWhile_append_stop, List.reverse_reverse]
  · exact fun c hc => hblank c (List.mem_append_right _ (List.mem_reverse.1 hc))
  · rwa [List.head?_reverse]

theorem exists_takeSign (cs : List Char) :
    ∃ sign ∈ [[], ['+'], ['-']], cs = sign ++ (takeSign cs).2 := by
  unfold takeSign
  split
  · exact ⟨['-'], by decide, rfl⟩
  · exact ⟨['+'], by decide, rfl⟩
  · exact ⟨[], by decide, rfl⟩

theorem takeSign_append {sign word : List Char} (hsign : sign ∈ [[], ['+'], ['-']])
    (hword : ∀ c ∈ word, isAsciiLetter c = true) : (takeSign (sign ++ word)).2 = word := by
  simp only [List.mem_cons, List.not_mem_nil, or_false] at hsign
  rcases hsign with rfl | rfl | rfl
  · rw [List.nil_append]
    unfold takeSign
    split
    · exact absurd (hword '-' List.mem_cons_self) (by decide)
    · exact absurd (hword '+' List.mem_cons_self) (by decide)
    · rfl
  · rfl
  · rfl

theorem not_isNumeralBlank_of_mem_sign {sign : List Char} (hsign : sign ∈ [[], ['+'], ['-']])
    {c : Char} (hc : c ∈ sign) : isNumeralBlank c = false := by
  simp only [List.mem_cons, List.not_mem_nil, or_false] at hsign
  rcases hsign with rfl | rfl | rfl
  · cases hc
  · rw [List.mem_singleton.1 hc]
    decide
  · rw [List.mem_singleton.1 hc]
    decide

theorem not_isNumeralBlank_of_isAsciiLetter {c : Char} (h : isAsciiLetter c = true) :
    isNumeralBlank c = false := by
  rw [isNumeralBlank, not_isBlank_of_isAsciiLetter h, Bool.false_and]

theorem isAsciiLetter_of_asciiLower {c : Char} (h : isAsciiLetter (asciiLower c) = true) :
    isAsciiLetter c = true := by
  unfold asciiLower at h
  split at h
  · next hupper =>
    rw [Bool.and_eq_true, decide_eq_true_eq, decide_eq_true_eq] at hupper
    exact isAsciiLetter_iff.2 (.inl hupper)
  · exact h

theorem isAsciiLetter_of_mem_nan {word : List Char} (h : word.map asciiLower = "nan".toList) :
    ∀ c ∈ word, isAsciiLetter c = true := by
  intro c hc
  have hmem : asciiLower c ∈ "nan".toList := h ▸ List.mem_map_of_mem hc
  have hletters : ∀ d ∈ "nan".toList, isAsciiLetter d = true := forall_mem_of_all (by decide)
  exact isAsciiLetter_of_asciiLower (hletters _ hmem)

/-- The reading of numerals finds the word. -/
theorem writesNan_iff {numeral : String} : WritesNan numeral ↔
    (takeSign (trimNumeral numeral.toList)).2.map asciiLower = "nan".toList := by
  constructor
  · rintro ⟨before, sign, word, after, hnumeral, hblank, hsign, hword⟩
    have hletters := isAsciiLetter_of_mem_nan hword
    have hvisible : ∀ c ∈ sign ++ word, isNumeralBlank c = false := by
      intro c hc
      rcases List.mem_append.1 hc with hc | hc
      · exact not_isNumeralBlank_of_mem_sign hsign hc
      · exact not_isNumeralBlank_of_isAsciiLetter (hletters c hc)
    have hsome : sign ++ word ≠ [] := by
      rintro hnil
      rw [(List.append_eq_nil_iff.1 hnil).2] at hword
      cases hword
    rw [hnumeral, trimNumeral_append hblank (fun c hc => hvisible c (List.mem_of_head? hc))
      (fun c hc => hvisible c (List.mem_of_getLast? hc)) hsome, takeSign_append hsign hletters]
    exact hword
  · intro hword
    obtain ⟨before, after, hnumeral, hblank⟩ := exists_trimNumeral numeral.toList
    obtain ⟨sign, hsign, htake⟩ := exists_takeSign (trimNumeral numeral.toList)
    refine ⟨before, sign, _, after, ?_, hblank, hsign, hword⟩
    rw [← htake]
    exact hnumeral

variable {numeral : String} {x : Double}

theorem exists_ofDecimal_of_readDecimal? {s : Bool} {cs : List Char}
    (h : readDecimal? s cs = some x) : ∃ digits e, Double.ofDecimal s digits e = x := by
  simp only [readDecimal?] at h
  split_ifs at h
  obtain ⟨e, -, rfl⟩ := Option.map_eq_some_iff.1 h
  exact ⟨_, _, rfl⟩

/-- A numeral is read as an infinity, as no number if it is the word for it, or as a decimal. -/
theorem readDouble_eq_ok (h : readDouble numeral = .ok x) :
    (WritesNan numeral ∧ x = .nan 0) ∨
      ¬ WritesNan numeral ∧ ((∃ s, x = .infinite s) ∨ ∃ s digits e, x = .ofDecimal s digits e) := by
  rw [writesNan_iff, ← String.ofList_inj, String.ofList_toList]
  simp only [readDouble, Bool.or_eq_true, beq_iff_eq] at h
  generalize String.ofList ((takeSign (trimNumeral numeral.toList)).2.map asciiLower) = word at *
  split_ifs at h with hinfinity hnan
  · refine .inr ⟨?_, .inl ⟨_, (Except.ok.inj h).symm⟩⟩
    rintro rfl
    revert hinfinity
    decide
  · exact .inl ⟨hnan, (Except.ok.inj h).symm⟩
  · refine .inr ⟨hnan, .inr ?_⟩
    split at h
    · next hsome =>
      obtain rfl := Except.ok.inj h
      obtain ⟨cs, -, hdecimal⟩ := Option.bind_eq_some_iff.1 hsome
      obtain ⟨digits, e, heq⟩ := exists_ofDecimal_of_readDecimal? hdecimal
      exact ⟨_, digits, e, heq.symm⟩
    · cases h

theorem fits_readDouble (h : readDouble numeral = .ok x) : x.Fits := by
  rcases readDouble_eq_ok h with ⟨-, rfl⟩ | ⟨-, ⟨s, rfl⟩ | ⟨s, digits, e, rfl⟩⟩
  · trivial
  · trivial
  · exact Double.fits_ofDecimal s digits e

theorem extended?_readDouble_eq_none (h : readDouble numeral = .ok x) :
    x.extended? = none ↔ WritesNan numeral := by
  rcases readDouble_eq_ok h with ⟨hnan, rfl⟩ | ⟨hnan, ⟨s, rfl⟩ | ⟨s, digits, e, rfl⟩⟩
  · exact iff_of_true rfl hnan
  · exact iff_of_false nofun hnan
  · exact iff_of_false (Double.extended?_ofDecimal_ne_none s digits e) hnan

end Text

/-! ## Settings -/

namespace Timeout

/-- The timeout is no number. -/
def Undefined (t : Timeout) : Prop := t.seconds.exact.extended? = none

/-- The timeout is a number above zero, or infinite. -/
def Positive (t : Timeout) : Prop :=
  ∃ a, t.seconds.exact.extended? = some a ∧ ((0 : WithTop ℚ) : WithBot (WithTop ℚ)) < a

/-- The only timeout that is not above zero is no number. -/
theorem positive_iff {t : Timeout} : t.Positive ↔ ¬ t.Undefined := by
  unfold Positive Undefined
  cases h : t.seconds.exact.extended? with
  | none => simp
  | some a =>
    have hpos := Double.zero_lt_of_not_isNonPositive t.not_nonPositive h
    simpa using hpos

end Timeout

namespace Settings

open Outcome (bind_eq_ok pure_eq_ok)

/-- A file has a timeout, written as some numeral. -/
def AsksFor (content : Option String) (numeral : String) : Prop :=
  ∃ text doc, content = some text ∧ Ini.read text = .ok doc ∧
    Asked.timeout.value? doc = .ok (some numeral)

variable {path : String} {content : Option String} {doc : Ini.Document} {s : Settings}

theorem liftM_eq_ok {α : Type} {x : Except Ini.Error α} {a : α} :
    (liftM x : Except LoadError α) = .ok a ↔ x = .ok a :=
  Outcome.mapError_eq_ok

theorem timeoutOf_eq_ok {fallback t : Timeout} : timeoutOf doc fallback = .ok t ↔
    (Asked.timeout.value? doc = .ok none ∧ fallback = t) ∨
      ∃ numeral x, Asked.timeout.value? doc = .ok (some numeral) ∧
        Text.readDouble numeral = .ok x ∧ Timeout.ofSeconds (.decimal x) = .ok t := by
  unfold timeoutOf
  rw [bind_eq_ok]
  simp only [liftM_eq_ok]
  constructor
  · rintro ⟨_ | numeral, hvalue, h⟩
    · exact .inl ⟨hvalue, (pure_eq_ok _ _).1 h⟩
    · obtain ⟨x, hx, h⟩ := bind_eq_ok.1 h
      exact .inr ⟨numeral, x, hvalue, Outcome.mapError_eq_ok.1 hx, Outcome.mapError_eq_ok.1 h⟩
  · rintro (⟨hvalue, rfl⟩ | ⟨numeral, x, hvalue, hx, h⟩)
    · exact ⟨none, hvalue, rfl⟩
    · exact ⟨some numeral, hvalue,
        bind_eq_ok.2 ⟨x, Outcome.mapError_eq_ok.2 hx, Outcome.mapError_eq_ok.2 h⟩⟩

theorem timeoutOf_of_ofDocument {defaults : Settings} (h : ofDocument doc defaults = .ok s) :
    timeoutOf doc defaults.timeout = .ok s.timeout := by
  unfold ofDocument at h
  obtain ⟨name, -, h⟩ := bind_eq_ok.1 h
  split at h
  · obtain ⟨timeout, htimeout, h⟩ := bind_eq_ok.1 h
    obtain ⟨command, -, h⟩ := bind_eq_ok.1 h
    obtain ⟨cacheDir, -, h⟩ := bind_eq_ok.1 h
    obtain ⟨repositoriesDir, -, h⟩ := bind_eq_ok.1 h
    obtain rfl := (pure_eq_ok _ _).1 h
    exact htimeout
  · cases h

theorem ofDocument_of_load (h : load path content = .ok s) :
    ∃ text doc, content = some text ∧ Ini.read text = .ok doc ∧ ofDocument doc = .ok s := by
  cases content with
  | none => cases h
  | some text =>
    obtain ⟨doc, hread, h⟩ := bind_eq_ok.1 h
    split_ifs at h
    exact ⟨text, doc, rfl, liftM_eq_ok.1 hread, h⟩

/-- The timeout of loaded settings is the usual one if the file has none, else it is the number that
the numeral is read as. -/
theorem timeout_of_load (h : load path content = .ok s) :
    ((∀ numeral, ¬ AsksFor content numeral) ∧ s.timeout = .standard) ∨
      ∃ numeral x, AsksFor content numeral ∧ Text.readDouble numeral = .ok x ∧
        Timeout.ofSeconds (.decimal x) = .ok s.timeout := by
  obtain ⟨text, doc, rfl, hread, hdoc⟩ := ofDocument_of_load h
  rcases timeoutOf_eq_ok.1 (timeoutOf_of_ofDocument hdoc) with
    ⟨hvalue, hfallback⟩ | ⟨numeral, x, hvalue, hx, hseconds⟩
  · refine .inl ⟨?_, hfallback.symm⟩
    rintro numeral ⟨_, doc', heq, hread', hvalue'⟩
    obtain rfl := Option.some.inj heq
    obtain rfl := Except.ok.inj (hread.symm.trans hread')
    cases hvalue.symm.trans hvalue'
  · exact .inr ⟨numeral, x, ⟨text, doc, rfl, hread, hvalue⟩, hx, hseconds⟩

theorem AsksFor.eq {numeral numeral' : String} (h : AsksFor content numeral)
    (h' : AsksFor content numeral') : numeral = numeral' := by
  obtain ⟨text, doc, rfl, hread, hvalue⟩ := h
  obtain ⟨_, doc', heq, hread', hvalue'⟩ := h'
  obtain rfl := Option.some.inj heq
  obtain rfl := Except.ok.inj (hread.symm.trans hread')
  exact Option.some.inj (Except.ok.inj (hvalue.symm.trans hvalue'))

/-- The timeout of loaded settings is a floating-point number that passes the check again. -/
theorem decimal_of_load (h : load path content = .ok s) :
    ∃ x, s.timeout.seconds = .decimal x ∧ x.Fits ∧
      Timeout.ofSeconds (.decimal x) = .ok s.timeout := by
  rcases timeout_of_load h with ⟨-, hstandard⟩ | ⟨numeral, x, -, hx, hseconds⟩
  · rw [hstandard]
    exact ⟨_, rfl, ⟨by decide, by decide, by decide⟩, rfl⟩
  · exact ⟨x, Timeout.seconds_of_ofSeconds hseconds, Text.fits_readDouble hx, hseconds⟩

/-- The timeout of loaded settings is no number exactly if the file asks for that. -/
theorem undefined_iff_of_load (h : load path content = .ok s) :
    s.timeout.Undefined ↔ ∃ numeral, AsksFor content numeral ∧ Text.WritesNan numeral := by
  rcases timeout_of_load h with ⟨hnone, hstandard⟩ | ⟨numeral, x, hasks, hx, hseconds⟩
  · rw [hstandard]
    refine iff_of_false nofun ?_
    rintro ⟨numeral, hasks, -⟩
    exact hnone numeral hasks
  · rw [Timeout.Undefined, Timeout.seconds_of_ofSeconds hseconds]
    refine (Text.extended?_readDouble_eq_none hx).trans ⟨?_, ?_⟩
    · exact fun hnan => ⟨numeral, hasks, hnan⟩
    · rintro ⟨numeral', hasks', hnan⟩
      rwa [hasks.eq hasks']

end Settings
end Imagewright
