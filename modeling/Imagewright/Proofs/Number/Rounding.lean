import Imagewright.Proofs.Number.Order
import Mathlib.Tactic.Linarith
import Mathlib.Tactic.Positivity
import Mathlib.Tactic.Ring
import Mathlib.Tactic.GCongr

/-!
# Rounding

A fraction is rounded at the exponent where it has 53 significant bits, or at the least exponent. No
number of the format lies strictly between a fraction and what it is rounded to, so a sum that is at
most a number stays so when it is rounded, and a number of the format is not rounded at all.

## Main definitions

* `Double.Fits`: a finite number has a significand and an exponent of the format.
* `Double.ExponentOf`: the exponent at which a fraction is rounded.
* `Double.Rounds`: the significand to which it is rounded there.

## Main statements

* `Double.ofRatio_spec`: how a fraction is rounded.
* `Double.ofRatio_le`, `Double.add_le`: rounding does not go past a number of the format.
* `Double.denotes_ofRatio`, `Double.extended?_zero_add`: what is not rounded.
* `Double.fits_ofDecimal`: a decimal is rounded to a number of the format.
-/
namespace Imagewright.Double

/-- A significand of at most 53 bits and an exponent in the range of the format. -/
structure InFormat (m : Nat) (e : Int) : Prop where
  short : m < 2 ^ 53
  least : minExponent ≤ e
  greatest : e ≤ maxExponent

/-- If the number is finite, its significand and exponent are of the format. -/
def Fits : Double → Prop
  | .finite _ m e => InFormat m e
  | _ => True

/-- The number is finite and is this rational number. -/
def Denotes (x : Double) (q : ℚ) : Prop :=
  x.extended? = some ((q : WithTop ℚ) : WithBot (WithTop ℚ))

theorem denotes_finite (s : Bool) (m : Nat) (e : Int) : Denotes (.finite s m e) (rational s m e) :=
  rfl

theorem eq_finite_of_denotes {x : Double} {q : ℚ} (h : x.Denotes q) :
    ∃ s m e, x = .finite s m e ∧ rational s m e = q := by
  cases x with
  | nan o => cases h
  | infinite s => cases s <;> cases h
  | finite s m e => exact ⟨s, m, e, rfl, by simpa [Denotes, extended?] using h⟩

theorem inFormat_zero : InFormat 0 0 := ⟨by norm_num, by decide, by decide⟩

/-! ## Fractions -/

section Fractions

variable {num den : Nat}

theorem le_roundHalfEven {k n d : Nat} (hd : 0 < d) (h : (k : ℚ) ≤ n / d) :
    k ≤ roundHalfEven n d := by
  have hfloor : k ≤ n / d := by
    rw [le_div_iff₀ (by exact_mod_cast hd)] at h
    exact (Nat.le_div_iff_mul_le hd).2 (by exact_mod_cast h)
  unfold roundHalfEven
  grind

theorem roundHalfEven_le {k n d : Nat} (hd : 0 < d) (h : (n : ℚ) / d ≤ k) :
    roundHalfEven n d ≤ k := by
  have hmul : n ≤ k * d := by
    rw [div_le_iff₀ (by exact_mod_cast hd)] at h
    exact_mod_cast h
  have hfloor : n / d ≤ k := Nat.div_le_of_le_mul (by rwa [mul_comm])
  simp only [roundHalfEven]
  split
  · next hup =>
    -- something is left over, so the quotient is less than `k`
    have hrest : 0 < n % d := by grind
    have hsplit := Nat.div_add_mod n d
    have hne : n / d ≠ k := by
      rintro rfl
      have hcomm := mul_comm d (n / d)
      omega
    omega
  · exact hfloor

theorem scaleBy_snd_pos {base : Nat} (hb : 0 < base) (hd : 0 < den) (e : Int) :
    0 < (scaleBy base num den e).2 := by
  have hpow : 0 < base.pow e.toNat := Nat.pow_pos hb
  unfold scaleBy
  split
  · exact Nat.mul_pos hd hpow
  · exact hd

theorem scaleBy_eq {base : Nat} (hb : 0 < base) (e : Int) :
    ((scaleBy base num den e).1 : ℚ) / (scaleBy base num den e).2 = num / den / base ^ e := by
  have hbase : (base : ℚ) ≠ 0 := by positivity
  unfold scaleBy
  split
  · next he =>
    have hpow : ((base.pow e.toNat : Nat) : ℚ) = (base : ℚ) ^ e := by
      rw [Nat.pow_eq, Nat.cast_pow, ← zpow_natCast, Int.toNat_of_nonneg he]
    rw [Nat.cast_mul, hpow, div_div]
  · next he =>
    have hpow : ((base.pow (-e).toNat : Nat) : ℚ) = ((base : ℚ) ^ e)⁻¹ := by
      rw [Nat.pow_eq, Nat.cast_pow, ← zpow_natCast, Int.toNat_of_nonneg (by omega), zpow_neg]
    rw [Nat.cast_mul, hpow, mul_div_right_comm, div_eq_mul_inv _ ((base : ℚ) ^ e)]

end Fractions

/-! ## Exponents -/

/-- The exponent at which a fraction is rounded: it has 53 significant bits there, or less at the
least exponent. -/
structure ExponentOf (q : ℚ) (e : Int) : Prop where
  least : minExponent ≤ e
  full : minExponent < e → 2 ^ 52 * 2 ^ e ≤ q
  short : q < 2 ^ 53 * 2 ^ e

theorem two_zpow_add (a b : Int) : (2 : ℚ) ^ (a + b) = 2 ^ a * 2 ^ b := zpow_add₀ two_ne_zero a b

theorem log2_bounds {n : Nat} (hn : n ≠ 0) :
    (2 : ℚ) ^ (n.log2 : Int) ≤ n ∧ (n : ℚ) < 2 ^ ((n.log2 : Int) + 1) := by
  have hlow : 2 ^ n.log2 ≤ n := Nat.log2_self_le hn
  have hhigh : n < 2 ^ (n.log2 + 1) := Nat.lt_log2_self
  constructor
  · rw [zpow_natCast]
    exact_mod_cast hlow
  · have hcast : ((n.log2 : Int) + 1) = ((n.log2 + 1 : Nat) : Int) := by push_cast; rfl
    rw [hcast, zpow_natCast]
    exact_mod_cast hhigh

/-- The first guess is right or too large by one. -/
theorem guess_bounds {num den : Nat} (hn : num ≠ 0) (hd : den ≠ 0) {g : Int}
    (hg : g = (num.log2 : Int) - den.log2 - 52) :
    2 ^ 51 * 2 ^ g ≤ (num : ℚ) / den ∧ (num : ℚ) / den < 2 ^ 53 * 2 ^ g := by
  obtain ⟨hnlow, hnhigh⟩ := log2_bounds hn
  obtain ⟨hdlow, hdhigh⟩ := log2_bounds hd
  have hdpos : (0 : ℚ) < den := by positivity
  have hgpos : (0 : ℚ) < 2 ^ g := by positivity
  have hscale : (2 : ℚ) ^ (num.log2 : Int) = 2 ^ 52 * 2 ^ g * 2 ^ (den.log2 : Int) := by
    have hexp : (num.log2 : Int) = (52 : Nat) + g + den.log2 := by push_cast; omega
    rw [hexp, two_zpow_add, two_zpow_add, zpow_natCast]
  rw [two_zpow_add, zpow_one] at hnhigh hdhigh
  constructor
  · rw [le_div_iff₀ hdpos]
    calc 2 ^ 51 * 2 ^ g * (den : ℚ)
        ≤ 2 ^ 51 * 2 ^ g * (2 ^ (den.log2 : Int) * 2) := by gcongr
      _ = 2 ^ (num.log2 : Int) := by rw [hscale]; ring
      _ ≤ num := hnlow
  · rw [div_lt_iff₀ hdpos]
    calc (num : ℚ) < 2 ^ (num.log2 : Int) * 2 := hnhigh
      _ = 2 ^ 53 * 2 ^ g * 2 ^ (den.log2 : Int) := by rw [hscale]; ring
      _ ≤ 2 ^ 53 * 2 ^ g * den := by gcongr

theorem ExponentOf.of_bounds {q : ℚ} {e : Int} (hlow : 2 ^ 52 * 2 ^ e ≤ q)
    (hhigh : q < 2 ^ 53 * 2 ^ e) : ExponentOf q (max minExponent e) where
  least := le_max_left _ _
  full h := by
    rw [max_eq_right (by omega)]
    exact hlow
  short := by
    have hle : (2 : ℚ) ^ e ≤ 2 ^ max minExponent e :=
      zpow_le_zpow_right₀ (by norm_num) (le_max_right _ _)
    linarith

theorem exponentOf_spec {num den : Nat} (hn : num ≠ 0) (hd : den ≠ 0) :
    ExponentOf (num / den) (exponentOf num den) := by
  have hscaled := @scaleBy_eq num den 2 two_pos ((num.log2 : Int) - (den.log2 : Int) - 52)
  have hpos := @scaleBy_snd_pos num den 2 two_pos (Nat.pos_of_ne_zero hd)
    ((num.log2 : Int) - (den.log2 : Int) - 52)
  obtain ⟨hlow, hhigh⟩ := guess_bounds hn hd rfl
  simp only [exponentOf, Nat.pow_eq]
  generalize (num.log2 : Int) - (den.log2 : Int) - 52 = g at *
  generalize scaleBy 2 num den g = scaled at *
  obtain ⟨n, d⟩ := scaled
  have hg : (0 : ℚ) < 2 ^ g := by positivity
  have hq : (num : ℚ) / den = n / d * 2 ^ g := by
    rw [hscaled, Nat.cast_ofNat, div_mul_cancel₀ _ hg.ne']
  have hdpos : (0 : ℚ) < d := by exact_mod_cast hpos
  split
  · next hlt =>
    have hlt' : (n : ℚ) < 2 ^ 52 * d := by exact_mod_cast (Nat.div_lt_iff_lt_mul hpos).1 hlt
    have hquot : (n : ℚ) / d < 2 ^ 52 := (div_lt_iff₀ hdpos).2 hlt'
    have hhalf : (2 : ℚ) ^ g = 2 ^ (g - 1) * 2 := by
      rw [← zpow_add_one₀ two_ne_zero, sub_add_cancel]
    apply ExponentOf.of_bounds
    · rw [hhalf] at hlow
      linarith
    · rw [hq, hhalf]
      have hpos' : (0 : ℚ) < 2 ^ (g - 1) := by positivity
      nlinarith
  · next hge =>
    have hge' : (2 : ℚ) ^ 52 * d ≤ n := by
      exact_mod_cast (Nat.le_div_iff_mul_le hpos).1 (Nat.le_of_not_lt hge)
    have hquot : (2 : ℚ) ^ 52 ≤ n / d := (le_div_iff₀ hdpos).2 hge'
    apply ExponentOf.of_bounds _ hhigh
    rw [hq]
    gcongr

/-! ## Significands -/

/-- A fraction is rounded to a significand at its exponent. No integer lies strictly between the
two. -/
structure Rounds (q : ℚ) (r : Nat) (e : Int) : Prop where
  exponent : ExponentOf q e
  up : ∀ k : Nat, k * 2 ^ e ≤ q → k ≤ r
  down : ∀ k : Nat, q ≤ k * 2 ^ e → r ≤ k

namespace Rounds

variable {q : ℚ} {r m : Nat} {e e' : Int}

theorem le_top (h : Rounds q r e) : r ≤ 2 ^ 53 := by
  refine h.down _ ?_
  push_cast
  exact h.exponent.short.le

/-- A number of the format at another exponent is an integer at this one, or it is less than all
that is rounded here. -/
theorem integer_or_small (h : Rounds q r e) (hm : m < 2 ^ 53) (he' : minExponent ≤ e') :
    (e ≤ e' ∧ ∃ k : Nat, (m : ℚ) * 2 ^ e' = k * 2 ^ e) ∨
      (e' < e ∧ (m : ℚ) * 2 ^ e' < 2 ^ 52 * 2 ^ e ∧ 2 ^ 52 * 2 ^ e ≤ q) := by
  rcases le_or_gt e e' with hle | hlt
  · refine .inl ⟨hle, m * 2 ^ (e' - e).toNat, ?_⟩
    have hexp : e' = ((e' - e).toNat : Int) + e := by omega
    conv_lhs => rw [hexp, two_zpow_add, zpow_natCast]
    push_cast
    ring
  · refine .inr ⟨hlt, ?_, h.exponent.full (by omega)⟩
    have hm' : (m : ℚ) < 2 ^ 53 := by exact_mod_cast hm
    have hhalf : (2 : ℚ) ^ (e' + 1) ≤ 2 ^ e := zpow_le_zpow_right₀ (by norm_num) (by omega)
    rw [two_zpow_add, zpow_one] at hhalf
    have hpos : (0 : ℚ) < 2 ^ e' := by positivity
    calc (m : ℚ) * 2 ^ e' < 2 ^ 53 * 2 ^ e' := by gcongr
      _ = 2 ^ 52 * (2 ^ e' * 2) := by ring
      _ ≤ 2 ^ 52 * 2 ^ e := by gcongr

theorem le_of_le (h : Rounds q r e) (hm : m < 2 ^ 53) (he' : minExponent ≤ e')
    (hle : (m : ℚ) * 2 ^ e' ≤ q) : (m : ℚ) * 2 ^ e' ≤ r * 2 ^ e := by
  rcases h.integer_or_small hm he' with ⟨-, k, hk⟩ | ⟨-, hsmall, hfull⟩
  · rw [hk] at hle ⊢
    have hkr : (k : ℚ) ≤ r := by exact_mod_cast h.up k hle
    gcongr
  · have htop : (2 : ℚ) ^ 52 ≤ r := by
      exact_mod_cast h.up (2 ^ 52) (by push_cast; exact hfull)
    exact hsmall.le.trans (by gcongr)

theorem ge_of_ge (h : Rounds q r e) (hm : m < 2 ^ 53) (he' : minExponent ≤ e')
    (hge : q ≤ (m : ℚ) * 2 ^ e') :
    (r : ℚ) * 2 ^ e ≤ m * 2 ^ e' ∧ e ≤ e' ∧ (e = e' → r ≤ m) := by
  rcases h.integer_or_small hm he' with ⟨hle, k, hk⟩ | ⟨-, hsmall, hfull⟩
  · rw [hk] at hge ⊢
    have hrk := h.down k hge
    have hrk' : (r : ℚ) ≤ k := by exact_mod_cast hrk
    refine ⟨by gcongr, hle, ?_⟩
    rintro rfl
    have hpos : (0 : ℚ) < 2 ^ e := by positivity
    have hmk : (m : ℚ) = k := mul_right_cancel₀ hpos.ne' hk
    rwa [show m = k by exact_mod_cast hmk]
  · linarith

end Rounds

theorem pack_top (s : Bool) (e : Int) : pack s (2 ^ 53) e =
    if maxExponent < e + 1 then .infinite s else .finite s (2 ^ 52) (e + 1) := rfl

theorem pack_of_ne (s : Bool) {r : Nat} (e : Int) (hr : r ≠ 2 ^ 53) : pack s r e =
    if r = 0 then .finite s 0 0
    else if maxExponent < e then .infinite s else .finite s r e := by
  have htop : (r == Nat.pow 2 53) = false := by simpa using hr
  simp only [pack, htop, Bool.false_eq_true, if_false, beq_iff_eq]

/-- The number `±r * 2 ^ e` is packed as it is, unless it is too large. -/
theorem pack_spec {r : Nat} {e : Int} (hr : r ≤ 2 ^ 53) (he : minExponent ≤ e) :
    ((∀ s, pack s r e = .infinite s) ∧ (maxExponent < e ∨ e = maxExponent ∧ r = 2 ^ 53)) ∨
      ∃ m e', (∀ s, pack s r e = .finite s m e') ∧ InFormat m e' ∧
        (m : ℚ) * 2 ^ e' = r * 2 ^ e := by
  by_cases htop : r = 2 ^ 53
  · subst htop
    simp only [pack_top]
    split_ifs with hover
    · exact .inl ⟨fun s => rfl, by grind⟩
    · refine .inr ⟨2 ^ 52, e + 1, fun s => rfl, ⟨by norm_num, by omega, by omega⟩, ?_⟩
      rw [two_zpow_add, zpow_one]
      push_cast
      ring
  · simp only [pack_of_ne _ e htop]
    split_ifs with hzero hover
    · exact .inr ⟨0, 0, fun s => rfl, inFormat_zero, by simp [hzero]⟩
    · exact .inl ⟨fun s => rfl, .inl hover⟩
    · exact .inr ⟨r, e, fun s => rfl, ⟨by omega, he, by omega⟩, rfl⟩

/-- Zero is rounded at the least exponent. -/
theorem rounds_zero : Rounds 0 0 minExponent where
  exponent := ⟨le_rfl, fun h => absurd h (lt_irrefl _), by positivity⟩
  up k hk := by
    have hpos : (0 : ℚ) < 2 ^ minExponent := by positivity
    have hzero : (k : ℚ) ≤ 0 := nonpos_of_mul_nonpos_left hk hpos
    exact_mod_cast hzero
  down k _ := Nat.zero_le k

section Ratio

variable {num den m : Nat} {e : Int} {s : Bool}

/-- A fraction is rounded to a significand at its exponent, whatever its sign. -/
theorem rounds_ofRatio (num : Nat) (hd : den ≠ 0) :
    ∃ r e, Rounds (num / den) r e ∧ ∀ s, ofRatio s num den = pack s r e := by
  by_cases hn : num = 0
  · refine ⟨0, minExponent, ?_, fun s => ?_⟩
    · simpa [hn] using rounds_zero
    · subst hn
      rfl
  have hpos := @scaleBy_snd_pos num den 2 two_pos (Nat.pos_of_ne_zero hd) (exponentOf num den)
  have hscaled := @scaleBy_eq num den 2 two_pos (exponentOf num den)
  have hexp : (0 : ℚ) < 2 ^ exponentOf num den := by positivity
  rw [Nat.cast_ofNat] at hscaled
  have hunfold : ∀ s, ofRatio s num den =
      pack s (roundHalfEven (scaleBy 2 num den (exponentOf num den)).1
        (scaleBy 2 num den (exponentOf num den)).2) (exponentOf num den) := by
    intro s
    simp [ofRatio, hn]
  refine ⟨_, _, ⟨exponentOf_spec hn hd, fun k hk => ?_, fun k hk => ?_⟩, hunfold⟩
  · refine le_roundHalfEven hpos ?_
    rwa [hscaled, le_div_iff₀ hexp]
  · refine roundHalfEven_le hpos ?_
    rwa [hscaled, div_le_iff₀ hexp]

/-- A fraction becomes what it is rounded to, or it is too large. -/
theorem ofRatio_spec (num : Nat) (hd : den ≠ 0) : ∃ r e, Rounds (num / den) r e ∧
    (((∀ s, ofRatio s num den = .infinite s) ∧
        (maxExponent < e ∨ e = maxExponent ∧ r = 2 ^ 53)) ∨
      ∃ m e', (∀ s, ofRatio s num den = .finite s m e') ∧ InFormat m e' ∧
        (m : ℚ) * 2 ^ e' = r * 2 ^ e) := by
  obtain ⟨r, e, hrounds, hofRatio⟩ := rounds_ofRatio num hd
  simp only [hofRatio]
  exact ⟨r, e, hrounds, pack_spec hrounds.le_top hrounds.exponent.least⟩

/-! ## What rounding keeps -/

/-- A fraction is rounded to a number of the format. -/
theorem ofRatio_shape (num : Nat) (hd : den ≠ 0) :
    (∀ s, ofRatio s num den = .infinite s) ∨
      ∃ m e, (∀ s, ofRatio s num den = .finite s m e) ∧ InFormat m e := by
  obtain ⟨r, e, -, ⟨hinfinite, -⟩ | ⟨m, e', hfinite, hm, -⟩⟩ := ofRatio_spec num hd
  · exact .inl hinfinite
  · exact .inr ⟨m, e', hfinite, hm⟩

/-- A fraction that is at most a number of the format is rounded to at most that number. -/
theorem ofRatio_le_of_le (hd : den ≠ 0) (hm : InFormat m e) (h : (num : ℚ) / den ≤ m * 2 ^ e) :
    ∃ m' e', (∀ s, ofRatio s num den = .finite s m' e') ∧ (m' : ℚ) * 2 ^ e' ≤ m * 2 ^ e := by
  obtain ⟨r, e', hrounds, hcases⟩ := ofRatio_spec num hd
  obtain ⟨hle, hexp, hsame⟩ := hrounds.ge_of_ge hm.short hm.least h
  rcases hcases with ⟨-, hover⟩ | ⟨m', e'', hfinite, -, hvalue⟩
  · -- the significand would be too large for the number that it is at most
    have hshort := hm.short
    have hgreatest := hm.greatest
    grind
  · exact ⟨m', e'', hfinite, hvalue.trans_le hle⟩

/-- A fraction that is at least a number of the format is rounded to at least that number, or is too
large. -/
theorem le_ofRatio_of_le (hd : den ≠ 0) (hm : InFormat m e) (h : (m : ℚ) * 2 ^ e ≤ num / den) :
    (∀ s, ofRatio s num den = .infinite s) ∨
      ∃ m' e', (∀ s, ofRatio s num den = .finite s m' e') ∧ (m : ℚ) * 2 ^ e ≤ m' * 2 ^ e' := by
  obtain ⟨r, e', hrounds, ⟨hinfinite, -⟩ | ⟨m', e'', hfinite, -, hvalue⟩⟩ := ofRatio_spec num hd
  · exact .inl hinfinite
  · exact .inr ⟨m', e'', hfinite, (hrounds.le_of_le hm.short hm.least h).trans_eq hvalue.symm⟩

/-- The number `±q`. -/
def signed (s : Bool) (q : ℚ) : ℚ := if s then -q else q

theorem rational_eq_signed (s : Bool) (m : Nat) (e : Int) :
    rational s m e = signed s (m * 2 ^ e) := by
  cases s <;> simp [rational, signed]

theorem finite_le_iff {s' : Bool} {m' : Nat} {e' : Int} :
    finite s m e ≤ finite s' m' e' ↔ signed s (m * 2 ^ e) ≤ signed s' (m' * 2 ^ e') := by
  simp [le_iff, extended?, rational_eq_signed]

theorem ofRatio_le_finite (hd : den ≠ 0) {s' : Bool} (hm : InFormat m e)
    (h : signed s (num / den) ≤ signed s' (m * 2 ^ e)) : ofRatio s num den ≤ .finite s' m e := by
  have hq : (0 : ℚ) ≤ num / den := by positivity
  have hm0 : (0 : ℚ) ≤ m * 2 ^ e := by positivity
  cases s with
  | false =>
    have hle : (num : ℚ) / den ≤ m * 2 ^ e := by cases s' <;> grind [signed]
    obtain ⟨m', e', hofRatio, hm'⟩ := ofRatio_le_of_le hd hm hle
    rw [hofRatio, finite_le_iff]
    cases s' with
    | false => exact hm'
    | true =>
      -- only zero is at most a negative number or zero
      have hzero : (m : ℚ) * 2 ^ e = 0 := by grind [signed]
      have hpos : (0 : ℚ) ≤ m' * 2 ^ e' := by positivity
      grind [signed]
  | true =>
    cases s' with
    | false =>
      rcases ofRatio_shape num hd with hshape | ⟨m', e', hshape, -⟩
      · rw [hshape]
        simp [le_iff, extended?]
      · have hpos : (0 : ℚ) ≤ m' * 2 ^ e' := by positivity
        rw [hshape, finite_le_iff]
        grind [signed]
    | true =>
      have hge : (m : ℚ) * 2 ^ e ≤ num / den := by grind [signed]
      rcases le_ofRatio_of_le hd hm hge with hshape | ⟨m', e', hshape, hm'⟩
      · rw [hshape]
        simp [le_iff, extended?]
      · rw [hshape, finite_le_iff]
        grind [signed]

/-- Rounding does not go past a number of the format. -/
theorem ofRatio_le (hd : den ≠ 0) {y : Double} (hy : y.Fits) {b : WithBot (WithTop ℚ)}
    (hb : y.extended? = some b)
    (h : ((signed s (num / den) : WithTop ℚ) : WithBot (WithTop ℚ)) ≤ b) :
    ofRatio s num den ≤ y := by
  cases y with
  | nan o => cases hb
  | infinite s' =>
    obtain rfl := Option.some.inj hb
    cases s' with
    | true => simp at h
    | false =>
      rcases ofRatio_shape num hd with hshape | ⟨m, e, hshape, -⟩
      · cases s <;> simp [hshape, le_iff, extended?]
      · simp [hshape, le_iff, extended?]
  | finite s' m e =>
    obtain rfl := Option.some.inj hb
    rw [rational_eq_signed] at h
    exact ofRatio_le_finite hd hy (by exact_mod_cast h)

/-- A fraction that is a number of the format is not rounded. -/
theorem denotes_ofRatio (hd : den ≠ 0) (hm : InFormat m e) (h : (num : ℚ) / den = m * 2 ^ e) :
    Denotes (ofRatio s num den) (signed s (num / den)) := by
  obtain ⟨m', e', hofRatio, hle⟩ := ofRatio_le_of_le hd hm h.le
  rcases le_ofRatio_of_le hd hm h.ge with hinfinite | ⟨m'', e'', hofRatio', hge⟩
  · cases (hofRatio s).symm.trans (hinfinite s)
  · obtain ⟨-, rfl, rfl⟩ := Double.finite.inj ((hofRatio s).symm.trans (hofRatio' s))
    rw [hofRatio, h, ← hle.antisymm hge, ← rational_eq_signed]
    exact denotes_finite s m' e'

end Ratio

/-! ## Sums -/

/-- An integer at an exponent is rounded as a fraction. -/
theorem ofScaled_eq (negativeZero : Bool) (n e : Int) : ∃ s num den, den ≠ 0 ∧
    ofScaled negativeZero n e = ofRatio s num den ∧ signed s (num / den) = n * 2 ^ e := by
  refine ⟨if n == 0 then negativeZero else n < 0, (scaleBy 2 n.natAbs 1 (-e)).1,
    (scaleBy 2 n.natAbs 1 (-e)).2, (scaleBy_snd_pos two_pos one_pos _).ne', rfl, ?_⟩
  rw [scaleBy_eq two_pos, zpow_neg, div_inv_eq_mul, Nat.cast_one, div_one, Nat.cast_two]
  rcases lt_trichotomy n 0 with hn | rfl | hn
  · have habs : ((n.natAbs : Nat) : ℚ) = -n := by
      rw [Nat.cast_natAbs, abs_of_neg hn, Int.cast_neg]
    simp [signed, hn, hn.ne, habs]
  · simp [signed]
  · have habs : ((n.natAbs : Nat) : ℚ) = n := by rw [Nat.cast_natAbs, abs_of_pos hn]
    simp [signed, hn.ne', hn.le, habs]

/-- A sum of finite numbers is rounded once. -/
theorem addFinite_eq (s s' : Bool) (m m' : Nat) (e e' : Int) :
    ∃ t num den, den ≠ 0 ∧ addFinite s m e s' m' e' = ofRatio t num den ∧
      signed t (num / den) = rational s m e + rational s' m' e' := by
  obtain ⟨t, num, den, hd, hround, hsum⟩ := ofScaled_eq (s && s')
    ((if s then -((m * Nat.pow 2 (e - min e e').toNat : Nat) : Int)
      else ((m * Nat.pow 2 (e - min e e').toNat : Nat) : Int)) +
      if s' then -((m' * Nat.pow 2 (e' - min e e').toNat : Nat) : Int)
      else ((m' * Nat.pow 2 (e' - min e e').toNat : Nat) : Int)) (min e e')
  refine ⟨t, num, den, hd, hround, ?_⟩
  rw [hsum, Int.cast_add, add_mul, scaled_eq s m (min_le_left e e'),
    scaled_eq s' m' (min_le_right e e')]

/-- A sum that is at most a number of the format stays so when it is rounded. -/
theorem add_le {x y z : Double} {a b : ℚ} {c : WithBot (WithTop ℚ)} (hz : z.Fits)
    (hx : x.Denotes a) (hy : y.Denotes b) (hc : z.extended? = some c)
    (h : (((a + b : ℚ) : WithTop ℚ) : WithBot (WithTop ℚ)) ≤ c) : x.add y ≤ z := by
  obtain ⟨s, m, e, rfl, rfl⟩ := eq_finite_of_denotes hx
  obtain ⟨s', m', e', rfl, rfl⟩ := eq_finite_of_denotes hy
  obtain ⟨t, num, den, hd, hadd, hsum⟩ := addFinite_eq s s' m m' e e'
  rw [add, hadd]
  exact ofRatio_le hd hz hc (by rwa [hsum])

/-- Zero and a number of the format make that number. -/
theorem extended?_zero_add {x : Double} (hx : x.Fits) : (zero.add x).extended? = x.extended? := by
  cases x with
  | nan o => rfl
  | infinite s => rfl
  | finite s m e =>
    obtain ⟨t, num, den, hd, hadd, hsum⟩ := addFinite_eq false s 0 m 0 e
    have hvalue : signed t (num / den) = signed s (m * 2 ^ e) := by
      rw [hsum, rational_eq_signed s]
      simp [rational]
    have hm : (num : ℚ) / den = m * 2 ^ e := by
      have hq : (0 : ℚ) ≤ num / den := by positivity
      have hm0 : (0 : ℚ) ≤ m * 2 ^ e := by positivity
      cases t <;> cases s <;> grind [signed]
    rw [zero, add, hadd, denotes_ofRatio hd hx hm, hvalue, ← rational_eq_signed]
    exact (denotes_finite s m e).symm

/-! ## Decimals -/

theorem fits_ofRatio (s : Bool) (num : Nat) {den : Nat} (hd : den ≠ 0) :
    (ofRatio s num den).Fits := by
  rcases ofRatio_shape num hd with h | ⟨m, e, h, hm⟩
  · rw [h]
    trivial
  · rw [h]
    exact hm

/-- A decimal is some number. -/
theorem extended?_ofDecimal_ne_none (s : Bool) (digits : Nat) (e : Int) :
    (ofDecimal s digits e).extended? ≠ none := by
  simp only [ofDecimal]
  split_ifs
  · nofun
  · nofun
  · nofun
  · have hden := @scaleBy_snd_pos digits 1 10 (by decide) one_pos (-e)
    rcases ofRatio_shape (scaleBy 10 digits 1 (-e)).1 hden.ne' with h | ⟨_, _, h, -⟩
    · rw [h]
      nofun
    · rw [h]
      nofun

theorem fits_ofDecimal (s : Bool) (digits : Nat) (e : Int) : (ofDecimal s digits e).Fits := by
  simp only [ofDecimal]
  split_ifs
  · exact inFormat_zero
  · trivial
  · exact inFormat_zero
  · exact fits_ofRatio _ _ (scaleBy_snd_pos (by decide) one_pos _).ne'

end Imagewright.Double
