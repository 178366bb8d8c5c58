import Imagewright.Text.Blank
import Imagewright.Text.Digits
import Imagewright.Text.Word
import Mathlib.Data.List.Basic

/-!
# Classes of characters

Blanks, digits and letters have no character in common, and a scan over one class stops in front of
the first character that is not in it.

## Main statements

* `Text.not_isBlank_of_isDigit`, `Text.not_isDigit_of_isAsciiLetter`,
  `Text.not_isBlank_of_isAsciiLetter`: the classes are apart.
* `Text.takeWhile_append_stop`, `Text.dropWhile_append_stop`: where a scan stops.
-/
namespace Imagewright.Text

/-! ## Classes that are apart -/

theorem exists_range_of_isBlank {c : Char} (h : isBlank c = true) :
    ∃ r ∈ blankRanges, r.1 ≤ c.toNat ∧ c.toNat ≤ r.2 := by
  simpa [isBlank] using h

theorem exists_first_of_isDigit {c : Char} (h : isDigit c = true) :
    ∃ first ∈ digitZeros, first ≤ c.toNat ∧ c.toNat < first + 10 := by
  simp only [isDigit, digitValue?] at h
  split at h
  · split at h
    · next hd =>
      rw [Bool.and_eq_true, decide_eq_true_eq, decide_eq_true_eq] at hd
      exact ⟨0x30, by decide, hd.1, by omega⟩
    · cases h
  · rw [Option.isSome_map, List.find?_isSome] at h
    simpa using h

theorem not_isBlank_of_isDigit {c : Char} (h : isDigit c = true) : isBlank c = false := by
  have apart : ∀ r ∈ blankRanges, ∀ first ∈ digitZeros, r.2 < first ∨ first + 10 ≤ r.1 := by decide
  obtain ⟨first, hzero, hlow, hhigh⟩ := exists_first_of_isDigit h
  rw [← Bool.not_eq_true]
  intro hb
  obtain ⟨r, hr, hfirst, hlast⟩ := exists_range_of_isBlank hb
  have := apart r hr first hzero
  omega

theorem not_isDigit_of_isBlank {c : Char} (h : isBlank c = true) : isDigit c = false := by
  rw [← Bool.not_eq_true]
  intro hd
  rw [not_isBlank_of_isDigit hd] at h
  cases h

theorem isAsciiLetter_iff {c : Char} :
    isAsciiLetter c = true ↔
      (0x41 ≤ c.toNat ∧ c.toNat ≤ 0x5A) ∨ (0x61 ≤ c.toNat ∧ c.toNat ≤ 0x7A) := by
  simp [isAsciiLetter]

theorem isAsciiAlnum_eq (c : Char) : isAsciiAlnum c = c.isAlphanum := by
  have hupper : c.isUpper = true ↔ 0x41 ≤ c.toNat ∧ c.toNat ≤ 0x5A := decide_eq_true_iff
  have hlower : c.isLower = true ↔ 0x61 ≤ c.toNat ∧ c.toNat ≤ 0x7A :=
    Bool.and_eq_true_iff.trans (and_congr decide_eq_true_iff decide_eq_true_iff)
  have hdigit : c.isDigit = true ↔ 0x30 ≤ c.toNat ∧ c.toNat ≤ 0x39 := Char.isDigit_iff_toNat
  have halnum : c.isAlphanum = (c.isUpper || c.isLower || c.isDigit) := rfl
  rw [halnum, Bool.eq_iff_iff, Bool.or_eq_true, Bool.or_eq_true, hupper, hlower, hdigit]
  simp [isAsciiAlnum, isAsciiLetter, isAsciiDigit]

/-- What is decided for the characters of a list one after the other. Instances for quantifiers over
all characters go through each of them, in the list or not. -/
theorem forall_mem_of_all {P : Char → Prop} [DecidablePred P] {cs : List Char}
    (h : cs.all (fun c => P c) = true) : ∀ c ∈ cs, P c := by
  simpa using h

/-- A class of ASCII characters is in another one if that holds character by character. -/
theorem forall_of_ascii {p q : Char → Bool} (hp : ∀ c, p c = true → c.toNat < 128)
    (h : ∀ n < 128, p (Char.ofNat n) = true → q (Char.ofNat n) = true) {c : Char}
    (hc : p c = true) : q c = true := by
  have := h c.toNat (hp c hc)
  rw [Char.ofNat_toNat] at this
  exact this hc

theorem toNat_lt_of_isAlphanum {c : Char} (h : c.isAlphanum = true) : c.toNat < 128 := by
  rw [← isAsciiAlnum_eq] at h
  simp only [isAsciiAlnum, isAsciiLetter, isAsciiDigit, Bool.or_eq_true,
    Bool.and_eq_true, decide_eq_true_eq] at h
  omega

theorem not_isBlank_of_isAsciiLetter {c : Char} (h : isAsciiLetter c = true) :
    isBlank c = false := by
  have apart : ∀ r ∈ blankRanges, r.2 < 0x41 ∨ 0x7A < r.1 := by decide
  rw [isAsciiLetter_iff] at h
  rw [← Bool.not_eq_true]
  intro hb
  obtain ⟨r, hr, hfirst, hlast⟩ := exists_range_of_isBlank hb
  have := apart r hr
  omega

theorem not_isAsciiLetter_of_isBlank {c : Char} (h : isBlank c = true) :
    isAsciiLetter c = false := by
  rw [← Bool.not_eq_true]
  intro hl
  rw [not_isBlank_of_isAsciiLetter hl] at h
  cases h

theorem not_isDigit_of_isAsciiLetter {c : Char} (h : isAsciiLetter c = true) :
    isDigit c = false := by
  have apart : ∀ first ∈ digitZeros, first + 10 ≤ 0x41 ∨ 0x7A < first := by decide
  rw [isAsciiLetter_iff] at h
  rw [← Bool.not_eq_true]
  intro hd
  obtain ⟨first, hzero, hlow, hhigh⟩ := exists_first_of_isDigit hd
  have := apart first hzero
  omega

theorem isWord_of_isAsciiLetter {c : Char} (h : isAsciiLetter c = true) : isWord c = true := by
  have hlt : c.toNat < 0x80 := by
    rw [isAsciiLetter_iff] at h
    omega
  simp [isWord, hlt, isAsciiAlnum, h]

theorem exists_of_mem_hexDigits {width n : Nat} {c : Char} (h : c ∈ hexDigits width n) :
    ∃ d < 16, c = hexDigit d := by
  induction width generalizing n with
  | zero => cases h
  | succ width ih =>
    rcases List.mem_append.1 h with h | h
    · exact ih h
    · exact ⟨n % 16, Nat.mod_lt _ (by decide), List.mem_singleton.1 h⟩

/-! ## Scans -/

variable {p : Char → Bool} {xs ys : List Char}

/-- A scan takes what is in the class and stops in front of what is not. -/
theorem takeWhile_append_stop (hx : ∀ c ∈ xs, p c = true) (hy : ∀ c ∈ ys.head?, p c = false) :
    (xs ++ ys).takeWhile p = xs := by
  rw [List.takeWhile_append_of_pos hx]
  cases ys with
  | nil => simp
  | cons c ys => simp [hy c rfl]

theorem dropWhile_append_stop (hx : ∀ c ∈ xs, p c = true) (hy : ∀ c ∈ ys.head?, p c = false) :
    (xs ++ ys).dropWhile p = ys := by
  rw [List.dropWhile_append_of_pos hx]
  cases ys with
  | nil => rfl
  | cons c ys => simp [hy c rfl]

end Imagewright.Text
