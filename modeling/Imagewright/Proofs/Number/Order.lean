import Imagewright.Timeout
import Mathlib.Algebra.Order.Field.Power
import Mathlib.Data.Rat.Cast.Order
import Mathlib.Order.WithBot

/-!
# The order of floating-point numbers

The exact comparison of floating-point numbers is that of the rational numbers which they denote,
with the infinities at both ends. So it is transitive, and a timeout that has passed stays so.

## Main definitions

* `Double.extended?`: the rational number or the infinity that a number denotes.
* `x ≤ y` for floating-point numbers: both denote something, and in this order.

## Main statements

* `Double.compare?_eq`: numbers compare as what they denote.
* `Double.le_trans`, `Timeout.isOver_of_le`: what comes later is later.
-/
namespace Imagewright

namespace Double

/-! ## Comparison -/

/-- The rational number with a sign, a significand and an exponent. -/
def rational (negative : Bool) (m : Nat) (e : Int) : ℚ := (if negative then -1 else 1) * m * 2 ^ e

/-- The rational number or the infinity that a number denotes, if it is a number at all. -/
def extended? : Double → Option (WithBot (WithTop ℚ))
  | .finite s m e => some ((rational s m e : ℚ) : WithTop ℚ)
  | .infinite s => some (if s then ⊥ else (⊤ : WithTop ℚ))
  | .nan _ => none

theorem scaled_eq (s : Bool) (m : Nat) {low e : Int} (h : low ≤ e) :
    ((if s then -((m * Nat.pow 2 (e - low).toNat : Nat) : Int)
      else ((m * Nat.pow 2 (e - low).toNat : Nat) : Int) : Int) : ℚ) * 2 ^ low =
      rational s m e := by
  have hexp : ((2 : ℚ) ^ (e - low).toNat) * 2 ^ low = 2 ^ e := by
    rw [← zpow_natCast, Int.toNat_of_nonneg (by omega), ← zpow_add₀ two_ne_zero]
    congr 1
    omega
  rw [rational, ← hexp]
  cases s <;> simp [mul_assoc]

theorem compare_map {α β : Type} [LinearOrder α] [LinearOrder β] {f : α → β} (hf : StrictMono f)
    (x y : α) : compare (f x) (f y) = compare x y := by
  rw [← cmp_eq_compare, ← cmp_eq_compare, hf.cmp_map_eq]

theorem compareFinite_eq_compare (s s' : Bool) (m m' : Nat) (e e' : Int) :
    compareFinite s m e s' m' e' = compare (rational s m e) (rational s' m' e') := by
  have hpos : (0 : ℚ) < 2 ^ min e e' := zpow_pos two_pos _
  have hscale : StrictMono fun x : Int => (x : ℚ) * 2 ^ min e e' := by
    intro x y hxy
    have hcast : (x : ℚ) < y := by exact_mod_cast hxy
    exact mul_lt_mul_of_pos_right hcast hpos
  -- Both significands are integers at the lower exponent, and scaling keeps their order.
  rw [← scaled_eq s m (min_le_left e e'), ← scaled_eq s' m' (min_le_right e e')]
  exact (compare_map hscale _ _).symm

/-- Numbers compare as what they denote. -/
theorem compare?_eq (x y : Double) :
    x.compare? y = x.extended?.bind fun a => y.extended?.map (compare a) := by
  have hsome : StrictMono fun q : ℚ => ((q : WithTop ℚ) : WithBot (WithTop ℚ)) :=
    WithBot.coe_strictMono.comp WithTop.coe_strictMono
  cases x with
  | nan o => cases y <;> rfl
  | infinite s =>
    cases y with
    | nan o => rfl
    | infinite s' => cases s <;> cases s' <;> rfl
    | finite s' m' e' => cases s <;> rfl
  | finite s m e =>
    cases y with
    | nan o => rfl
    | infinite s' => cases s' <;> rfl
    | finite s' m' e' =>
      simp only [compare?, extended?, Option.bind_some, Option.map_some, Option.some.injEq,
        compareFinite_eq_compare]
      exact (compare_map hsome _ _).symm

/-! ## Order -/

instance : LE Double := ⟨fun x y => x.compare? y = some .lt ∨ x.compare? y = some .eq⟩

theorem atMost_iff {x y : Double} : x.atMost y = true ↔ x ≤ y := by
  change _ ↔ (x.compare? y = some .lt ∨ x.compare? y = some .eq)
  unfold atMost
  split <;> simp_all

theorem le_iff {x y : Double} :
    x ≤ y ↔ ∃ a b, x.extended? = some a ∧ y.extended? = some b ∧ a ≤ b := by
  change (x.compare? y = some .lt ∨ x.compare? y = some .eq) ↔ _
  rw [compare?_eq]
  cases x.extended? with
  | none => simp
  | some a =>
    cases y.extended? with
    | none => simp
    | some b => simp [compare_lt_iff_lt, le_iff_lt_or_eq]

theorem le_trans {x y z : Double} (hxy : x ≤ y) (hyz : y ≤ z) : x ≤ z := by
  rw [le_iff] at *
  obtain ⟨a, b, ha, hb, hab⟩ := hxy
  obtain ⟨b', c, hb', hc, hbc⟩ := hyz
  obtain rfl := Option.some.inj (hb.symm.trans hb')
  exact ⟨a, c, ha, hc, hab.trans hbc⟩

def zero : Double := .finite false 0 0

theorem extended?_zero : zero.extended? = some ((0 : ℚ) : WithTop ℚ) := by
  simp [zero, extended?, rational]

theorem zero_lt_of_not_isNonPositive {x : Double} (h : x.isNonPositive = false)
    {a : WithBot (WithTop ℚ)} (ha : x.extended? = some a) : ((0 : ℚ) : WithTop ℚ) < a := by
  have hcompare : x.compare? (.finite false 0 0) = some (compare a ((0 : ℚ) : WithTop ℚ)) := by
    change x.compare? zero = _
    rw [compare?_eq, ha, extended?_zero]
    rfl
  unfold isNonPositive at h
  rw [hcompare] at h
  apply compare_gt_iff_gt.1
  cases hc : compare a ((0 : ℚ) : WithTop ℚ) with
  | gt => rfl
  | lt | eq =>
    rw [hc] at h
    cases h

end Double

/-! ## Timeouts -/

namespace Timeout

theorem seconds_of_ofSeconds {seconds : Seconds} {timeout : Timeout}
    (h : ofSeconds seconds = .ok timeout) : timeout.seconds = seconds := by
  unfold ofSeconds at h
  split at h
  · exact (Except.ok.inj h) ▸ rfl
  · cases h

theorem isOver_iff {t : Timeout} {x : Double} : t.isOver x = true ↔ t.seconds.exact ≤ x :=
  Double.atMost_iff

/-- A timeout that has passed stays so. -/
theorem isOver_of_le {t : Timeout} {x y : Double} (h : t.isOver x = true) (hxy : x ≤ y) :
    t.isOver y = true :=
  isOver_iff.2 (Double.le_trans (isOver_iff.1 h) hxy)

theorem zero_le_of_isOver {t : Timeout} {x : Double} (h : t.isOver x = true) :
    Double.zero ≤ x := by
  obtain ⟨a, b, ha, hb, hab⟩ := Double.le_iff.1 (isOver_iff.1 h)
  have hpos := Double.zero_lt_of_not_isNonPositive t.not_nonPositive ha
  exact Double.le_iff.2 ⟨_, b, Double.extended?_zero, hb, hpos.le.trans hab⟩

theorem not_isOver_zero (t : Timeout) : t.isOver Double.zero = false := by
  rw [Bool.eq_false_iff]
  intro h
  obtain ⟨a, b, ha, hb, hab⟩ := Double.le_iff.1 (isOver_iff.1 h)
  obtain rfl := Option.some.inj (Double.extended?_zero.symm.trans hb)
  exact (Double.zero_lt_of_not_isNonPositive t.not_nonPositive ha).not_ge hab

end Timeout
end Imagewright
