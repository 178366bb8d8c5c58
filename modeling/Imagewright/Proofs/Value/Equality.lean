import Imagewright.Proofs.Assoc
import Imagewright.Proofs.Number.Order

/-!
# Equality of values

Values of different types may be equal: truth values, integers and floats are equal if they are the
same number. So equality is no identity, but it can be relied on like one: what equals the same
value is equal.

## Main definitions

* `Value.number?`: the number that a value counts as.

## Main statements

* `Value.same_of_number`: numbers of all types are equal exactly if they are the same number.
* `Value.same_trans`: equality is transitive.
* `Value.same_symm`: equality is symmetric where no lists and no objects are compared.
-/
namespace Imagewright

namespace Double

/-- An integer among the numbers that floats denote. -/
def whole (n : Int) : WithBot (WithTop ℚ) := ((n : ℚ) : WithTop ℚ)

@[simp] theorem whole_inj {n m : Int} : whole n = whole m ↔ n = m := by
  simp [whole]

variable {x y : Double}

theorem same_iff : x.same y = true ↔ ∃ a, x.extended? = some a ∧ y.extended? = some a := by
  rw [same, beq_iff_eq, compare?_eq]
  cases x.extended? with
  | none => simp
  | some a =>
    cases y.extended? with
    | none => simp
    | some b =>
      simp only [Option.bind_some, Option.map_some, Option.some.injEq, exists_eq_left']
      exact compare_eq_iff_eq.trans eq_comm

theorem extended?_ofInt (n : Int) :
    (finite (n < 0) n.natAbs 0).extended? = some (whole n) := by
  have hn : rational (n < 0) n.natAbs 0 = n := by
    rw [rational, zpow_zero, mul_one]
    rcases lt_or_ge n 0 with h | h
    · rw [decide_eq_true h, if_pos rfl, Nat.cast_natAbs, abs_of_neg h]
      simp
    · rw [decide_eq_false (not_lt.2 h), if_neg Bool.false_ne_true, Nat.cast_natAbs,
        abs_of_nonneg h, one_mul]
  rw [extended?, hn]
  rfl

theorem sameInt_iff {n : Int} : x.sameInt n = true ↔ x.extended? = some (whole n) := by
  have heq : x.sameInt n = x.same (finite (n < 0) n.natAbs 0) := rfl
  simp [heq, same_iff, extended?_ofInt]

end Double

namespace Moment

/-- What counts of a moment: where its distance from universal time is known, the seconds and
microseconds there. -/
def counted : Moment → Moment ⊕ Int × Nat
  | .instant d c (some a) => .inr (universalSeconds d c a, c.microsecond)
  | m => .inl m

theorem same_iff {m m' : Moment} : m.same m' = true ↔ m.counted = m'.counted := by
  rcases m with d | c | ⟨d, c, _ | a⟩ <;> rcases m' with d' | c' | ⟨d', c', _ | a'⟩ <;>
    simp [same, counted]

end Moment

namespace Value

/-- The number that a value counts as, if it is one. Truth values count as one and zero. -/
def number? : Value → Option (WithBot (WithTop ℚ))
  | .bool b => some (Double.whole (if b then 1 else 0))
  | .int n => some (Double.whole n)
  | .float x => x.extended?
  | _ => none

section

variable {v w : Value} {a : WithBot (WithTop ℚ)}

theorem sameAsInt_iff {n : Int} : v.sameAsInt n = true ↔ v.number? = some (Double.whole n) := by
  cases v with
  | bool b =>
    simp only [sameAsInt, number?, beq_iff_eq, Option.some.injEq, Double.whole_inj]
    exact eq_comm
  | int m =>
    simp only [sameAsInt, number?, beq_iff_eq, Option.some.injEq, Double.whole_inj]
    exact eq_comm
  | float x => exact Double.sameInt_iff
  | _ => simp [sameAsInt, number?]

theorem sameAsDouble_iff {x : Double} : v.sameAsDouble x = true ↔
    v = .float x ∨ ∃ a, x.extended? = some a ∧ v.number? = some a := by
  cases v with
  | bool b => simp [sameAsDouble, number?, Double.sameInt_iff]
  | int m => simp [sameAsDouble, number?, Double.sameInt_iff]
  | float y =>
    simp only [sameAsDouble, number?, Bool.or_eq_true, beq_iff_eq, Double.same_iff, float.injEq]
    exact or_congr_left eq_comm
  | _ => simp [sameAsDouble, number?]

/-- Numbers of all types are equal exactly if they are the same number. -/
theorem same_of_number (h : v.number? = some a) : v.same w = true ↔ w.number? = some a := by
  cases v with
  | bool b =>
    obtain rfl := Option.some.inj h
    rw [same, sameAsInt_iff]
  | int n =>
    obtain rfl := Option.some.inj h
    rw [same, sameAsInt_iff]
  | float x =>
    rw [same, sameAsDouble_iff]
    constructor
    · rintro (rfl | ⟨b, hb, hw⟩)
      · exact h
      · rw [hw, ← hb]
        exact h
    · exact fun hw => .inr ⟨a, h, hw⟩
  | _ => cases h

/-- A float that is no number equals only itself. -/
theorem same_of_not_number {x : Double} (h : x.extended? = none) :
    (Value.float x).same w = true ↔ w = .float x := by
  simp [same, sameAsDouble_iff, h]

/-- Equality is symmetric where no lists and no objects are compared. -/
theorem same_symm (hv : v.isAtomic = true) (h : v.same w = true) : w.same v = true := by
  cases hn : v.number? with
  | some a => exact (same_of_number ((same_of_number hn).1 h)).2 hn
  | none =>
    cases v with
    | float x =>
      obtain rfl := (same_of_not_number hn).1 h
      exact h
    | moment m =>
      cases w with
      | moment m' => exact Moment.same_iff.2 (Moment.same_iff.1 h).symm
      | _ => cases h
    | _ => cases w <;> simp_all [same, isNull, isAtomic, number?]

/-- Each field of an object has an equal one in another object. -/
theorem sameFields_iff {fields others : List (String × Value)} : sameFields fields others = true ↔
    ∀ f ∈ fields, ∃ w, Assoc.get? others f.1 = some w ∧ f.2.same w = true := by
  induction fields with
  | nil => simp [sameFields]
  | cons f rest ih =>
    obtain ⟨key, v⟩ := f
    rw [sameFields, Bool.and_eq_true, ih, List.forall_mem_cons]
    cases Assoc.get? others key <;> simp

end

mutual

/-- Values that are equal to the same value are equal. -/
theorem same_trans : ∀ (u : Value) {v w : Value},
    u.same v = true → v.same w = true → u.same w = true
  | .list us, v, w, huv, hvw => by
    cases v with
    | list vs =>
      cases w with
      | list ws => exact sameItems_trans us huv hvw
      | _ => cases hvw
    | _ => cases huv
  | .obj us, v, w, huv, hvw => by
    cases v with
    | obj vs =>
      cases w with
      | obj ws =>
        simp only [same, Bool.and_eq_true, beq_iff_eq] at huv hvw ⊢
        exact ⟨huv.1.trans hvw.1, sameFields_trans us huv.2 hvw.2⟩
      | _ => cases hvw
    | _ => cases huv
  | .moment m, v, w, huv, hvw => by
    cases v with
    | moment m' =>
      cases w with
      | moment m'' =>
        exact Moment.same_iff.2 ((Moment.same_iff.1 huv).trans (Moment.same_iff.1 hvw))
      | _ => cases hvw
    | _ => cases huv
  | .float x, v, w, huv, hvw => by
    cases hx : x.extended? with
    | none => exact (same_of_not_number hx).1 huv ▸ hvw
    | some a =>
      have hv := (same_of_number (v := .float x) hx).1 huv
      exact (same_of_number (v := .float x) hx).2 ((same_of_number hv).1 hvw)
  | .bool b, v, w, huv, hvw =>
    (same_of_number rfl).2 ((same_of_number ((same_of_number rfl).1 huv)).1 hvw)
  | .int n, v, w, huv, hvw =>
    (same_of_number rfl).2 ((same_of_number ((same_of_number rfl).1 huv)).1 hvw)
  | .str s, v, w, huv, hvw => by
    cases v with
    | str t =>
      obtain rfl : s = t := by simpa [same] using huv
      exact hvw
    | _ => cases huv
  | .null, v, w, huv, hvw => by
    cases v with
    | null => exact hvw
    | _ => cases huv

theorem sameItems_trans : ∀ (us : List Value) {vs ws : List Value},
    sameItems us vs = true → sameItems vs ws = true → sameItems us ws = true
  | [], vs, ws, huv, hvw => by
    cases vs with
    | nil => exact hvw
    | cons v vs => cases huv
  | u :: us, vs, ws, huv, hvw => by
    cases vs with
    | nil => cases huv
    | cons v vs =>
      cases ws with
      | nil => cases hvw
      | cons w ws =>
        simp only [sameItems, Bool.and_eq_true] at huv hvw ⊢
        exact ⟨same_trans u huv.1 hvw.1, sameItems_trans us huv.2 hvw.2⟩

theorem sameFields_trans : ∀ (us : List (String × Value)) {vs ws : List (String × Value)},
    sameFields us vs = true → sameFields vs ws = true → sameFields us ws = true
  | [], _, _, _, _ => rfl
  | (key, u) :: us, vs, ws, huv, hvw => by
    obtain ⟨⟨v, hv, huv⟩, hrest⟩ := List.forall_mem_cons.1 (sameFields_iff.1 huv)
    obtain ⟨w, hw, hvw'⟩ := sameFields_iff.1 hvw _ (Assoc.mem_of_get? hv)
    have hus := sameFields_trans us (sameFields_iff.2 hrest) hvw
    exact sameFields_iff.2
      (List.forall_mem_cons.2 ⟨⟨w, hw, same_trans u huv hvw'⟩, sameFields_iff.1 hus⟩)

end

end Value
end Imagewright
