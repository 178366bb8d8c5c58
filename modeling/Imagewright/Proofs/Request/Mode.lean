import Imagewright.Proofs.Outcome
import Imagewright.Proofs.Text.Forms

/-!
# Modes are numerals

What the validation accepts as a mode, the assembly can read as a number of base eight.

## Main definitions

* `Request.IsOctal`: the number of a text of octal digits.

## Main statements

* `Request.readInt_of_isMode`: a mode that is well formed is the number of its digits, which has
  twelve bits at most.
-/
namespace Imagewright.Request

/-- A text consists of octal digits whose value is a number. One line feed may follow. -/
def IsOctal (s : String) (n : Nat) : Prop :=
  ∃ digits : List Char, digits ≠ [] ∧ (∀ c ∈ digits, isOctalDigit c = true) ∧
    (s.toList = digits ∨ s.toList = digits ++ ['\n']) ∧ n = Nat.ofDigitChars 8 digits 0

theorem isOctalDigit_cases {c : Char} (h : isOctalDigit c = true) :
    c ∈ ['0', '1', '2', '3', '4', '5', '6', '7'] := by
  simp only [isOctalDigit, Bool.and_eq_true, decide_eq_true_eq] at h
  obtain ⟨hlo, hhi⟩ := h
  have hlo : 48 ≤ c.toNat := hlo
  have hhi : c.toNat ≤ 55 := hhi
  rw [← Char.ofNat_toNat c]
  generalize c.toNat = n at *
  obtain rfl | rfl | rfl | rfl | rfl | rfl | rfl | rfl : n = 48 ∨ n = 49 ∨ n = 50 ∨ n = 51 ∨
    n = 52 ∨ n = 53 ∨ n = 54 ∨ n = 55 := by omega
  all_goals decide

/-- An octal digit is no blank and no sign, does not mark a base, and has a value. -/
theorem octalDigit_spec {c : Char} (h : isOctalDigit c = true) :
    Text.isNumeralBlank c = false ∧ c ≠ '-' ∧ c ≠ '+' ∧ c ≠ 'o' ∧ c ≠ 'O' ∧
      Text.digitOfBase? 8 c = some (c.toNat - '0'.toNat) ∧ c.toNat - '0'.toNat < 8 := by
  have hc := isOctalDigit_cases h
  simp only [List.mem_cons, List.not_mem_nil, or_false] at hc
  rcases hc with rfl | rfl | rfl | rfl | rfl | rfl | rfl | rfl <;>
    exact ⟨rfl, by decide, by decide, by decide, by decide, rfl, by decide⟩

/-- A run of octal digits has their value. -/
theorem digitRun?_octal {cs : List Char} (value count : Nat) (afterDigit : Bool)
    (h : ∀ c ∈ cs, isOctalDigit c = true) (hstart : afterDigit = true ∨ cs ≠ []) :
    Text.digitRun? 8 value count afterDigit cs =
      some (Nat.ofDigitChars 8 cs value, count + cs.length, []) := by
  induction cs generalizing value count afterDigit with
  | nil =>
    obtain rfl : afterDigit = true := hstart.resolve_right (absurd rfl)
    rfl
  | cons c cs ih =>
    obtain ⟨hc, hcs⟩ := List.forall_mem_cons.1 h
    obtain ⟨-, -, -, -, -, hd, -⟩ := octalDigit_spec hc
    simp only [Text.digitRun?, hd]
    rw [ih _ _ _ hcs (.inl rfl), Nat.ofDigitChars_cons, Nat.mul_comm, List.length_cons,
      Nat.add_assoc, Nat.add_comm 1]

theorem ofDigitChars_lt {cs : List Char} (h : ∀ c ∈ cs, isOctalDigit c = true) (value : Nat) :
    Nat.ofDigitChars 8 cs value < (value + 1) * Nat.pow 8 cs.length := by
  induction cs generalizing value with
  | nil =>
    change value < (value + 1) * 1
    omega
  | cons c cs ih =>
    obtain ⟨hc, hcs⟩ := List.forall_mem_cons.1 h
    obtain ⟨-, -, -, -, -, -, hlt⟩ := octalDigit_spec hc
    have hpow : Nat.pow 8 (cs.length + 1) = Nat.pow 8 cs.length * 8 := rfl
    rw [Nat.ofDigitChars_cons]
    calc Nat.ofDigitChars 8 cs (8 * value + (c.toNat - '0'.toNat))
        < (8 * value + (c.toNat - '0'.toNat) + 1) * Nat.pow 8 cs.length := ih hcs _
      _ ≤ 8 * (value + 1) * Nat.pow 8 cs.length := Nat.mul_le_mul_right _ (by omega)
      _ = (value + 1) * Nat.pow 8 (cs.length + 1) := by
        rw [hpow, Nat.mul_comm 8, Nat.mul_assoc, Nat.mul_comm 8]

theorem takeSign_octal {cs : List Char} (h : ∀ c ∈ cs, isOctalDigit c = true) :
    Text.takeSign cs = (false, cs) := by
  cases cs with
  | nil => rfl
  | cons c cs =>
    obtain ⟨-, hminus, hplus, -⟩ := octalDigit_spec (h c List.mem_cons_self)
    unfold Text.takeSign
    split
    · next heq => exact absurd (List.cons.inj heq).1 hminus
    · next heq => exact absurd (List.cons.inj heq).1 hplus
    · rfl

theorem dropOctalMark_octal {cs : List Char} (h : ∀ c ∈ cs, isOctalDigit c = true) :
    Text.dropOctalMark cs = cs := by
  unfold Text.dropOctalMark
  split
  · next z o rest =>
    obtain ⟨-, -, -, hlower, hupper, -⟩ := octalDigit_spec (h o (by simp))
    simp [hlower, hupper]
  · rfl

/-- The blanks around octal digits are trimmed, and the digits stay. -/
theorem trimNumeral_octal {cs blanks : List Char} (h : ∀ c ∈ cs, isOctalDigit c = true)
    (hne : cs ≠ []) (hb : ∀ c ∈ blanks, Text.isNumeralBlank c = true) :
    Text.trimNumeral (cs ++ blanks) = cs := by
  have hdrop : ∀ {ds : List Char} (es : List Char), ds ≠ [] → (∀ c ∈ ds, isOctalDigit c = true) →
      (ds ++ es).dropWhile Text.isNumeralBlank = ds ++ es := by
    intro ds es hds hall
    obtain ⟨d, ds, rfl⟩ := List.exists_cons_of_ne_nil hds
    have := (octalDigit_spec (hall d List.mem_cons_self)).1
    simp [this]
  rw [Text.trimNumeral, hdrop _ hne h, List.reverse_append,
    List.dropWhile_append_of_pos fun c hc => hb c (List.mem_reverse.1 hc)]
  have := hdrop [] (List.reverse_ne_nil_iff.2 hne) fun c hc => h c (List.mem_reverse.1 hc)
  rw [List.append_nil] at this
  rw [this, List.reverse_reverse]

/-- The digits of a mode have twelve bits at most: a fifth one is a zero in front. -/
theorem ofDigitChars_le_of_modeForm {cs : List Char} (h : ModeForm cs) :
    Nat.ofDigitChars 8 cs 0 ≤ 4095 := by
  obtain ⟨zero, digits, rfl, hzero, hlength, hall⟩ := h
  have hskip : Nat.ofDigitChars 8 (zero ++ digits) 0 = Nat.ofDigitChars 8 digits 0 := by
    rcases hzero with rfl | rfl <;> rfl
  have hlt := ofDigitChars_lt (fun c hc => isOctalDigit_iff.2 (hall c hc)) 0
  rw [Nat.zero_add, Nat.one_mul] at hlt
  rw [hskip]
  rcases hlength with hlength | hlength
  · rw [hlength] at hlt
    exact Nat.le_of_lt_succ (Nat.lt_of_lt_of_le hlt (by decide))
  · rw [hlength] at hlt
    exact Nat.le_of_lt_succ hlt

theorem octal_of_modeForm {cs : List Char} (h : ModeForm cs) :
    cs ≠ [] ∧ ∀ c ∈ cs, isOctalDigit c = true := by
  obtain ⟨zero, digits, rfl, hzero, hlength, hall⟩ := h
  refine ⟨List.append_ne_nil_of_right_ne_nil _ ?_, List.forall_mem_append.2 ⟨?_, ?_⟩⟩
  · rintro rfl
    simp at hlength
  · rcases hzero with rfl | rfl
    · exact List.forall_mem_nil _
    · exact List.forall_mem_singleton.2 (by decide)
  · exact fun c hc => isOctalDigit_iff.2 (hall c hc)

/-- A mode that is well formed is the number of its digits. -/
theorem readInt_of_isMode {s : String} (h : isMode s = true) :
    ∃ n : Nat, Text.readInt 8 s = .ok n ∧ IsOctal s n ∧ n ≤ 4095 := by
  obtain ⟨cs, hform, hs⟩ := isMode_iff.1 h
  obtain ⟨hne, hall⟩ := octal_of_modeForm hform
  have htrim : Text.trimNumeral s.toList = cs := by
    rcases hs with heq | heq
    · have hkept := trimNumeral_octal hall hne (List.forall_mem_nil _)
      rw [List.append_nil] at hkept
      rw [heq, hkept]
    · rw [heq, trimNumeral_octal hall hne (List.forall_mem_singleton.2 rfl)]
  refine ⟨_, ?_, ⟨_, hne, hall, hs, rfl⟩, ofDigitChars_le_of_modeForm hform⟩
  simp [Text.readInt, htrim, takeSign_octal hall, dropOctalMark_octal hall,
    digitRun?_octal 0 0 false hall (.inr hne)]

end Imagewright.Request
