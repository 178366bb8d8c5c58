import Imagewright.Blueprint.Size
import Imagewright.Proofs.Text.Classes
import Mathlib.Data.List.TakeWhile
import Mathlib.Data.Nat.Digits.Defs

/-!
# What denotes a size

A number that is not negative counts bytes, and a text denotes a size if it is a decimal numeral
and a unit, with blanks around them. Nothing else is a size: no other value is written as digits
and letters alone.

## Main definitions

* `Blueprint.sizeUnits`: the units as they are written, and their bytes.
* `Blueprint.NumberOf`, `Blueprint.UnitOf`: what digits and letters denote.
* `Blueprint.SizeOf`: what a value denotes.

## Main statements

* `Blueprint.splitSize?_eq_some`: how the text of a size is split.
* `Blueprint.parseSize_eq_ok`: a value is read as the size that it denotes, and nothing else
  is read.
-/
namespace Imagewright.Blueprint

open Text (isAsciiLetter isBlank isDigit)

/-! ## Sizes -/

/-- The units as they are written, and their bytes. -/
def sizeUnits : List (String × Nat) := [
  ("b", 1), ("kB", 1000), ("KiB", 1024), ("MB", 1000 * 1000), ("MiB", 1024 * 1024),
  ("GB", 1000 * 1000 * 1000), ("GiB", 1024 * 1024 * 1024), ("TB", 1000 * 1000 * 1000 * 1000),
  ("TiB", 1024 * 1024 * 1024 * 1024)]

/-- Letters spell a name in any mix of cases. -/
def Spells (letters : List Char) (name : String) : Prop :=
  letters.map Char.toLower = name.toList.map Char.toLower

/-- The bytes of a unit: a name in any mix of cases, or nothing, which stands for bytes. -/
inductive UnitOf : List Char → Nat → Prop
  | nothing : UnitOf [] 1
  | name {letters : List Char} {unit : String × Nat} (listed : unit ∈ sizeUnits)
    (spells : Spells letters unit.1) : UnitOf letters unit.2

/-- The number of a decimal numeral, whose digits may be of any script. -/
def NumberOf (digits : List Char) (n : Nat) : Prop :=
  ∃ values : List Nat, digits.map Text.digitValue? = values.map some ∧
    n = Nat.ofDigits 10 values.reverse

/-- What a value denotes as a size in bytes. -/
inductive SizeOf : Value → Nat → Prop
  | count (n : Nat) : SizeOf (.int n) n
  | text {s : String} {before digits between unit behind : List Char} {number factor : Nat}
    (spelled : s.toList = before ++ digits ++ between ++ unit ++ behind)
    (blanks : ∀ c ∈ before ++ between ++ behind, isBlank c = true)
    (nonempty : digits ≠ []) (readable : digits.length ≤ Text.maxDigits)
    (counts : NumberOf digits number) (measured : UnitOf unit factor) :
    SizeOf (.str s) (number * factor)

/-! ## Numerals -/

theorem digitsValue_eq {digits : List Char} {values : List Nat}
    (h : digits.map Text.digitValue? = values.map some) :
    Text.digitsValue digits = Nat.ofDigits 10 values.reverse := by
  calc Text.digitsValue digits
      = (digits.map Text.digitValue?).foldl (fun n d => n * 10 + d.getD 0) 0 := by
        rw [List.foldl_map, Text.digitsValue]
    _ = values.foldl (fun n d => n * 10 + d) 0 := by rw [h, List.foldl_map]; rfl
    _ = Nat.ofDigits 10 values.reverse := by
        simp only [Nat.ofDigits_eq_foldr, List.foldr_reverse, Nat.cast_id, Nat.mul_comm 10,
          Nat.add_comm (_ * 10)]

/-- The digits of a text are a numeral of their value. -/
theorem numberOf_iff {digits : List Char} {n : Nat} :
    NumberOf digits n ↔ (∀ c ∈ digits, isDigit c = true) ∧ Text.digitsValue digits = n := by
  constructor
  · rintro ⟨values, h, rfl⟩
    refine ⟨fun c hc => ?_, digitsValue_eq h⟩
    obtain ⟨d, -, hd⟩ := List.mem_map.1 (h ▸ List.mem_map_of_mem hc)
    rw [isDigit, ← hd, Option.isSome_some]
  · rintro ⟨hall, rfl⟩
    have h : digits.map Text.digitValue? =
        (digits.map fun c => (Text.digitValue? c).getD 0).map some := by
      rw [List.map_map]
      refine List.map_congr_left fun c hc => ?_
      obtain ⟨d, hd⟩ := Option.isSome_iff_exists.1 (hall c hc)
      simp [hd]
    exact ⟨_, h, digitsValue_eq h⟩

/-! ## Units -/

theorem asciiLower_eq (c : Char) : Text.asciiLower c = c.toLower := by
  by_cases h : c.toNat < 128
  · have hall : ∀ n < 128, Text.asciiLower (Char.ofNat n) = (Char.ofNat n).toLower := by decide
    simpa using hall c.toNat h
  · have hupper : ¬(c.val ≥ 'A'.val ∧ c.val ≤ 'Z'.val) := fun hc =>
      h (Nat.lt_of_le_of_lt hc.2 (by decide))
    have hcode : (decide (0x41 ≤ c.toNat) && decide (c.toNat ≤ 0x5A)) = false := by
      rw [Bool.and_eq_false_iff, decide_eq_false_iff_not]
      exact .inr (by simp only [decide_eq_false_iff_not]; omega)
    have hlower : c.toLower = c := dif_neg hupper
    rw [hlower, Text.asciiLower, hcode]
    rfl

/-- Only a letter has a letter as its lower case. -/
theorem isAsciiLetter_toLower (c : Char) : isAsciiLetter c.toLower = isAsciiLetter c := by
  rw [← asciiLower_eq, Text.asciiLower]
  split
  · next h =>
    rw [Bool.and_eq_true, decide_eq_true_eq, decide_eq_true_eq] at h
    have hcode : (Char.ofNat (c.toNat + 0x20)).toNat = c.toNat + 0x20 :=
      Text.toNat_charOfNat (.inl (by omega))
    rw [Bool.eq_iff_iff, Text.isAsciiLetter_iff, Text.isAsciiLetter_iff, hcode]
    omega
  · rfl

/-- The units in lower case are those that are written. -/
theorem map_units :
    units.map (fun unit => (unit.1.toList, unit.2)) =
      sizeUnits.map fun unit => (unit.1.toList.map Char.toLower, unit.2) := by decide

theorem lookup_units {name : String} {factor : Nat} :
    units.lookup name = some factor ↔ (name, factor) ∈ units := by
  have hself : ∀ unit ∈ units, units.lookup unit.1 = some unit.2 := by decide
  constructor
  · intro h
    obtain ⟨before, behind, hsplit, -⟩ := List.lookup_eq_some_iff.1 h
    rw [hsplit]
    exact List.mem_append_right _ List.mem_cons_self
  · exact fun h => hself _ h

/-- A name in lower case is listed if it is the lower case of a unit. -/
theorem mem_units_iff {letters : List Char} {factor : Nat} :
    (String.ofList (letters.map Char.toLower), factor) ∈ units ↔
      ∃ unit ∈ sizeUnits, Spells letters unit.1 ∧ unit.2 = factor := by
  have hinj : Function.Injective fun unit : String × Nat => (unit.1.toList, unit.2) := by
    rintro ⟨name, n⟩ ⟨name', n'⟩ h
    simpa [String.toList_inj] using h
  rw [← List.mem_map_of_injective hinj, map_units, List.mem_map]
  simp [Spells, eq_comm]

theorem unitFactor?_eq_some {letters : List Char} {factor : Nat} :
    unitFactor? letters = some factor ↔ UnitOf letters factor := by
  have hnamed : ∀ unit ∈ sizeUnits, unit.1.toList ≠ [] := by decide
  cases letters with
  | nil =>
    have hb : unitFactor? [] = some 1 := by decide
    rw [hb]
    constructor
    · rintro ⟨⟩
      exact .nothing
    · rintro (_ | ⟨hunit, hspells⟩)
      · rfl
      · exact absurd (List.map_eq_nil_iff.1 hspells.symm) (hnamed _ hunit)
  | cons c letters =>
    have hlower : (c :: letters).map Text.asciiLower = (c :: letters).map Char.toLower :=
      List.map_congr_left fun c _ => asciiLower_eq c
    rw [unitFactor?, List.isEmpty_cons, if_neg Bool.false_ne_true, hlower, lookup_units,
      mem_units_iff]
    constructor
    · rintro ⟨unit, hunit, hspells, rfl⟩
      exact .name hunit hspells
    · rintro (_ | ⟨hunit, hspells⟩)
      exact ⟨_, hunit, hspells, rfl⟩

/-- A unit is written in letters. -/
theorem UnitOf.isAsciiLetter {letters : List Char} {factor : Nat} (h : UnitOf letters factor) :
    ∀ c ∈ letters, isAsciiLetter c = true := by
  have hletters : ∀ unit ∈ sizeUnits,
      (unit.1.toList.map Char.toLower).all Text.isAsciiLetter = true := by decide
  cases h with
  | nothing => simp
  | @name _ unit hunit hspells =>
    intro c hc
    rw [← isAsciiLetter_toLower]
    exact List.all_eq_true.1 (hletters unit hunit) _ (hspells ▸ List.mem_map_of_mem hc)

/-! ## Texts -/

/-- Behind the digits of a size, a scan over blanks and then one over letters finds the unit. -/
theorem scan_unit {between unit behind : List Char} (hbetween : ∀ c ∈ between, isBlank c = true)
    (hunit : ∀ c ∈ unit, isAsciiLetter c = true) (hbehind : ∀ c ∈ behind, isBlank c = true) :
    ((between ++ (unit ++ behind)).dropWhile isBlank).takeWhile isAsciiLetter = unit ∧
      (((between ++ (unit ++ behind)).dropWhile isBlank).dropWhile isAsciiLetter).all isBlank =
        true := by
  cases unit with
  | nil =>
    have hall : ∀ c ∈ between ++ ([] ++ behind), isBlank c = true :=
      List.forall_mem_append.2 ⟨hbetween, hbehind⟩
    rw [List.dropWhile_eq_nil_iff.2 hall]
    exact ⟨rfl, rfl⟩
  | cons u unit =>
    have hletter : ∀ c ∈ ((u :: unit) ++ behind).head?, isBlank c = false := by
      rintro c ⟨⟩
      exact Text.not_isBlank_of_isAsciiLetter (hunit u List.mem_cons_self)
    have hblank : ∀ c ∈ behind.head?, isAsciiLetter c = false := fun c hc =>
      Text.not_isAsciiLetter_of_isBlank (hbehind c (List.mem_of_mem_head? hc))
    rw [Text.dropWhile_append_stop hbetween hletter, Text.takeWhile_append_stop hunit hblank,
      Text.dropWhile_append_stop hunit hblank, List.all_eq_true]
    exact ⟨rfl, hbehind⟩

/-- The text of a size is split into its digits and its letters. -/
theorem splitSize?_eq_some {cs digits unit : List Char} :
    splitSize? cs = some (digits, unit) ↔ ∃ before between behind,
      cs = before ++ digits ++ between ++ unit ++ behind ∧
        (∀ c ∈ before ++ between ++ behind, isBlank c = true) ∧ digits ≠ [] ∧
        (∀ c ∈ digits, isDigit c = true) ∧ ∀ c ∈ unit, isAsciiLetter c = true := by
  constructor
  · intro h
    unfold splitSize? at h
    extract_lets number rest ds at h
    split at h
    · cases h
    · next hcond =>
      obtain ⟨rfl, rfl⟩ : ds = digits ∧ rest.takeWhile isAsciiLetter = unit := by simpa using h
      rw [Bool.not_eq_true, Bool.or_eq_false_iff, Bool.not_eq_false', List.isEmpty_eq_false_iff,
        List.all_eq_true] at hcond
      refine ⟨cs.takeWhile isBlank, (number.dropWhile isDigit).takeWhile isBlank,
        rest.dropWhile isAsciiLetter, ?_, ?_, hcond.1, fun c hc => List.mem_takeWhile_imp hc,
        fun c hc => List.mem_takeWhile_imp hc⟩
      · simp only [List.append_assoc, List.takeWhile_append_dropWhile, ds, rest, number]
      · simp only [List.mem_append]
        rintro c ((hc | hc) | hc)
        · exact List.mem_takeWhile_imp hc
        · exact List.mem_takeWhile_imp hc
        · exact hcond.2 c hc
  · rintro ⟨before, between, behind, rfl, hblank, hne, hdigits, hunit⟩
    simp only [List.forall_mem_append] at hblank
    obtain ⟨⟨hbefore, hbetween⟩, hbehind⟩ := hblank
    have hfirst : ∀ c ∈ (digits ++ (between ++ (unit ++ behind))).head?, isBlank c = false := by
      obtain ⟨d, ds, rfl⟩ := List.exists_cons_of_ne_nil hne
      rintro c ⟨⟩
      exact Text.not_isBlank_of_isDigit (hdigits d List.mem_cons_self)
    have hstop : ∀ c ∈ (between ++ (unit ++ behind)).head?, isDigit c = false := by
      intro c hc
      have hmem := List.mem_of_mem_head? hc
      simp only [List.mem_append] at hmem
      rcases hmem with hc | hc | hc
      · exact Text.not_isDigit_of_isBlank (hbetween c hc)
      · exact Text.not_isDigit_of_isAsciiLetter (hunit c hc)
      · exact Text.not_isDigit_of_isBlank (hbehind c hc)
    obtain ⟨hletters, hrest⟩ := scan_unit hbetween hunit hbehind
    simp only [splitSize?, List.append_assoc, Text.dropWhile_append_stop hbefore hfirst,
      Text.takeWhile_append_stop hdigits hstop, Text.dropWhile_append_stop hdigits hstop, hletters,
      hrest, List.isEmpty_eq_false_iff.2 hne, Bool.not_true, Bool.or_self, Bool.false_eq_true,
      if_false]

/-- A text is a size as its digits and its unit say. -/
theorem parseSizeText_eq_ok {v : Value} {s : String} {n : Nat} :
    parseSizeText v s = .ok n ↔ SizeOf (.str s) n := by
  constructor
  · intro h
    unfold parseSizeText at h
    split at h
    · cases h
    · next digits unit hsplit =>
      split at h
      · cases h
      · next factor hfactor =>
        split at h
        · cases h
        · next hlength =>
          obtain ⟨before, between, behind, hs, hblank, hne, hdigits, -⟩ :=
            splitSize?_eq_some.1 hsplit
          cases h
          exact .text hs hblank hne (Nat.not_lt.1 hlength) (numberOf_iff.2 ⟨hdigits, rfl⟩)
            (unitFactor?_eq_some.1 hfactor)
  · rintro @⟨⟩
    next before digits between unit behind number factor hblank hne hlength hnumber hunit hs =>
      obtain ⟨hdigits, rfl⟩ := numberOf_iff.1 hnumber
      have hsplit : splitSize? s.toList = some (digits, unit) :=
        splitSize?_eq_some.2 ⟨before, between, behind, hs, hblank, hne, hdigits,
          hunit.isAsciiLetter⟩
      simp only [parseSizeText, hsplit, unitFactor?_eq_some.2 hunit, Nat.not_lt.2 hlength, if_false]

/-! ## Values that are no text -/

/-- A text of a size holds a digit, and nothing but blanks, digits and letters. -/
def Plain (cs : List Char) : Prop :=
  (∃ c ∈ cs, isDigit c = true) ∧
    ∀ c ∈ cs, isBlank c = true ∨ isDigit c = true ∨ isAsciiLetter c = true

theorem SizeOf.plain {s : String} {n : Nat} (h : SizeOf (.str s) n) : Plain s.toList := by
  cases h with
  | @text _ before digits between unit behind number factor hs hblank hne _ hnumber hunit =>
    have hdigits := (numberOf_iff.1 hnumber).1
    simp only [List.forall_mem_append] at hblank
    obtain ⟨d, ds, rfl⟩ := List.exists_cons_of_ne_nil hne
    refine ⟨⟨d, by simp [hs], hdigits d List.mem_cons_self⟩, fun c hc => ?_⟩
    rw [hs] at hc
    simp only [List.mem_append] at hc
    rcases hc with (((hc | hc) | hc) | hc) | hc
    · exact .inl (hblank.1.1 c hc)
    · exact .inr (.inl (hdigits c hc))
    · exact .inl (hblank.1.2 c hc)
    · exact .inr (.inr (hunit.isAsciiLetter c hc))
    · exact .inl (hblank.2 c hc)

/-- A mark is no blank, no digit and no letter. -/
def isMark (c : Char) : Bool := !(isBlank c || isDigit c || isAsciiLetter c)

theorem not_plain_of_mark {cs : List Char} {c : Char} (hc : c ∈ cs) (hm : isMark c = true) :
    ¬Plain cs := by
  rintro ⟨-, hall⟩
  rcases hall c hc with h | h | h <;> simp [isMark, h] at hm

theorem not_plain_of_no_digit {cs : List Char} (h : cs.any isDigit = false) : ¬Plain cs := by
  rintro ⟨⟨c, hc, hd⟩, -⟩
  rw [List.any_eq_true.2 ⟨c, hc, hd⟩] at h
  cases h

theorem point_mem_positional (digits : List Char) (point : Int) :
    '.' ∈ Double.positional digits point ['.', '0'] := by
  unfold Double.positional
  split
  · simp
  · extract_lets n
    split <;> simp

/-- What is written with an exponent holds a point or the sign of the exponent, if anything. -/
theorem scientific_marked (digits : List Char) (point : Int) :
    Double.scientific digits point = [] ∨
      ∃ c ∈ Double.scientific digits point, isMark c = true := by
  cases digits with
  | nil => exact .inl rfl
  | cons d ds =>
    right
    cases ds with
    | nil =>
      refine ⟨if point - 1 < 0 then '-' else '+', ?_, ?_⟩
      · simp [Double.scientific, Double.exponentText]
      · split <;> decide
    | cons d' ds => exact ⟨'.', by simp [Double.scientific], by decide⟩

theorem not_plain_scientific (digits : List Char) (point : Int) :
    ¬Plain (Double.scientific digits point) := by
  rcases scientific_marked digits point with h | ⟨c, hc, hm⟩
  · rw [h]
    exact not_plain_of_no_digit rfl
  · exact not_plain_of_mark hc hm

theorem not_plain_double (x : Double) : ¬Plain x.text.toList := by
  have hpoint : isMark '.' = true := by decide
  cases x with
  | nan origin => exact not_plain_of_no_digit (by decide : "nan".toList.any isDigit = false)
  | infinite negative => cases negative <;> exact not_plain_of_no_digit (by decide)
  | finite negative significand exponent =>
    cases negative with
    | true => exact not_plain_of_mark (by simp [Double.text]) (by decide : isMark '-' = true)
    | false =>
      simp only [Double.text, Bool.false_eq_true, if_false, String.toList_ofList]
      split
      · exact not_plain_of_mark (by decide) hpoint
      · split
        · exact not_plain_of_mark (point_mem_positional _ _) hpoint
        · exact not_plain_scientific _ _

theorem dash_mem_dateText (d : Date) : '-' ∈ (Moment.dateText d).toList := by
  simp [Moment.dateText, toString]

theorem not_plain_moment (m : Moment) : ¬Plain m.text.toList := by
  have hdash : isMark '-' = true := by decide
  cases m with
  | date d => exact not_plain_of_mark (dash_mem_dateText d) hdash
  | clock c =>
    exact not_plain_of_mark (by simp [Moment.text, Moment.clockText, toString])
      (by decide : isMark ':' = true)
  | instant d c ahead =>
    refine not_plain_of_mark ?_ hdash
    have := dash_mem_dateText d
    simp [Moment.text, toString, this]

/-- What is neither a text nor a whole number nor a truth value is not written as a size. -/
theorem not_plain_text {v : Value} (hstr : ∀ s, v ≠ .str s) (hint : ∀ n, v ≠ .int n)
    (hbool : ∀ b, v ≠ .bool b) : ¬Plain v.text.toList := by
  cases v with
  | null => exact not_plain_of_no_digit (by decide : "None".toList.any isDigit = false)
  | bool b => exact absurd rfl (hbool b)
  | int n => exact absurd rfl (hint n)
  | float x => exact not_plain_double x
  | str s => exact absurd rfl (hstr s)
  | moment m => exact not_plain_moment m
  | list items =>
    exact not_plain_of_mark (by simp [Value.text, Value.quoted]) (by decide : isMark '[' = true)
  | obj fields =>
    exact not_plain_of_mark (by simp [Value.text, Value.quoted]) (by decide : isMark '\x7b' = true)

/-- A value is read as the size that it denotes, and what denotes no size is refused: whole numbers
that are not negative denote themselves, and texts what their digits and their unit say. -/
theorem parseSize_eq_ok {v : Value} {n : Nat} : parseSize v = .ok n ↔ SizeOf v n := by
  cases v with
  | str s => exact parseSizeText_eq_ok
  | bool b => exact iff_of_false (by simp [parseSize]) nofun
  | int m =>
    simp only [parseSize]
    split
    · next hm => exact iff_of_false nofun (by rintro ⟨⟩; omega)
    · next hm =>
      obtain ⟨k, rfl⟩ := Int.eq_ofNat_of_zero_le (Int.not_lt.1 hm)
      constructor
      · rintro ⟨⟩
        exact .count k
      · rintro ⟨⟩
        rfl
  | _ =>
    refine iff_of_false (fun h => ?_) nofun
    simp only [parseSize] at h
    exact not_plain_text (by simp) (by simp) (by simp) (parseSizeText_eq_ok.1 h).plain

end Imagewright.Blueprint
