/-!
# Binary floating-point numbers

Numbers of 53 significant bits, as sign, significand and exponent, with conversions that are exact
or round once, to the nearest number and to the even one of two. All arithmetic is on natural
numbers and integers.

## Main definitions

* `Double`: a finite number, an infinity or no number. What is no number knows where it comes from.
* `Double.ofRatio`, `Double.ofDecimal`: the number nearest to a fraction or to a decimal.
* `Double.compare?`: exact comparison; there is none with `nan`.
* `Double.truncate?`: the integer part of a finite number.
* `Double.add`: the number nearest to a sum.
-/
namespace Imagewright

/-- A number of 53 significant bits: `±significand * 2 ^ exponent`, an infinity, or no number. -/
inductive Double where
  | finite (negative : Bool) (significand : Nat) (exponent : Int)
  | infinite (negative : Bool)
  | nan (origin : Nat)
deriving DecidableEq, Repr

namespace Double

/-- The integer nearest to `num / den`, the even one of two. -/
def roundHalfEven (num den : Nat) : Nat :=
  let q := num / den
  let twice := 2 * (num % den)
  if den < twice || (twice == den && q % 2 == 1) then q + 1 else q

/-- The numerator and denominator of `num / den / base ^ e`. -/
def scaleBy (base num den : Nat) (e : Int) : Nat × Nat :=
  if 0 ≤ e then (num, den * base.pow e.toNat) else (num * base.pow (-e).toNat, den)

/-- The least exponent of a number. -/
def minExponent : Int := -1074

/-- The greatest exponent of a number. -/
def maxExponent : Int := 971

/-- The exponent at which `num / den` has 53 significant bits, or the least one. -/
def exponentOf (num den : Nat) : Int :=
  let guess : Int := (num.log2 : Int) - (den.log2 : Int) - 52
  let (n, d) := scaleBy 2 num den guess
  max minExponent (if n / d < Nat.pow 2 52 then guess - 1 else guess)

/-- The number `±significand * 2 ^ exponent`, where the significand may have reached the next power
of two. -/
def pack (negative : Bool) (significand : Nat) (exponent : Int) : Double :=
  let (significand, exponent) :=
    if significand == Nat.pow 2 53 then (Nat.pow 2 52, exponent + 1) else (significand, exponent)
  if significand == 0 then .finite negative 0 0
  else if maxExponent < exponent then .infinite negative
  else .finite negative significand exponent

/-- The number nearest to `±num / den`. -/
def ofRatio (negative : Bool) (num den : Nat) : Double :=
  if num == 0 then .finite negative 0 0
  else
    let exponent := exponentOf num den
    let (n, d) := scaleBy 2 num den exponent
    pack negative (roundHalfEven n d) exponent

/-- The number of decimal digits of `n`. -/
def digitCount (n : Nat) : Nat := (Nat.toDigits 10 n).length

/-- The number nearest to `±digits * 10 ^ exponent`. Magnitudes far beyond the range of the type
are settled by their number of digits. -/
def ofDecimal (negative : Bool) (digits : Nat) (exponent : Int) : Double :=
  if digits == 0 then .finite negative 0 0
  else
    let magnitude : Int := digitCount digits + exponent
    if 400 < magnitude then .infinite negative
    else if magnitude < -400 then .finite negative 0 0
    else
      let (num, den) := scaleBy 10 digits 1 (-exponent)
      ofRatio negative num den

def ofInt (n : Int) : Double := ofRatio (n < 0) n.natAbs 1

/-- The numerator and denominator of the magnitude of `significand * 2 ^ exponent`. -/
def magnitude (significand : Nat) (exponent : Int) : Nat × Nat :=
  scaleBy 2 significand 1 (-exponent)

/-- The exact comparison of two finite numbers given by sign, significand and exponent. -/
def compareFinite (s : Bool) (m : Nat) (e : Int) (s' : Bool) (m' : Nat) (e' : Int) : Ordering :=
  let low := min e e'
  let a : Int := (m * Nat.pow 2 (e - low).toNat : Nat)
  let b : Int := (m' * Nat.pow 2 (e' - low).toNat : Nat)
  Ord.compare (if s then -a else a) (if s' then -b else b)

/-- The exact comparison of two numbers; nothing compares with `nan`. -/
def compare? : Double → Double → Option Ordering
  | .nan _, _ => none
  | _, .nan _ => none
  | .infinite s, .infinite s' => some (Ord.compare s' s)
  | .infinite s, .finite .. => some (if s then .lt else .gt)
  | .finite .., .infinite s => some (if s then .gt else .lt)
  | .finite s m e, .finite s' m' e' => some (compareFinite s m e s' m' e')

/-- Numerical equality: both zeros are equal and `nan` differs from itself. -/
def same (x y : Double) : Bool := x.compare? y == some .eq

/-- Numerical equality with an integer, without rounding. -/
def sameInt (x : Double) (n : Int) : Bool := x.compare? (.finite (n < 0) n.natAbs 0) == some .eq

/-- The number is at most another. Not so if one of them is `nan`. -/
def atMost (x y : Double) : Bool :=
  match x.compare? y with
  | some .lt | some .eq => true
  | _ => false

/-- The number is at most zero. Not so for `nan`. -/
def isNonPositive (x : Double) : Bool :=
  match x.compare? (.finite false 0 0) with
  | some .gt | none => false
  | some _ => true

/-- The number is zero, of either sign. -/
def isZero : Double → Bool
  | .finite _ m _ => m == 0
  | _ => false

/-- The integer part of a finite number, toward zero. -/
def truncate? : Double → Option Int
  | .finite s m e =>
    let (num, den) := magnitude m e
    let n : Int := (num / den : Nat)
    some (if s then -n else n)
  | _ => none

/-- The number nearest to `n * 2 ^ e`, where a zero may be negative. -/
def ofScaled (negativeZero : Bool) (n e : Int) : Double :=
  let (num, den) := magnitude n.natAbs e
  ofRatio (if n == 0 then negativeZero else n < 0) num den

/-- The sum of two finite numbers given by sign, significand and exponent. A sum of zeros is
negative if both are. -/
def addFinite (s : Bool) (m : Nat) (e : Int) (s' : Bool) (m' : Nat) (e' : Int) : Double :=
  let low := min e e'
  let a : Int := (m * Nat.pow 2 (e - low).toNat : Nat)
  let b : Int := (m' * Nat.pow 2 (e' - low).toNat : Nat)
  ofScaled (s && s') ((if s then -a else a) + (if s' then -b else b)) low

/-- The sum of two numbers. There is none of the two infinities. -/
def add : Double → Double → Double
  | .nan _, _ | _, .nan _ => .nan 0
  | .infinite s, .infinite s' => if s == s' then .infinite s else .nan 0
  | .infinite s, .finite .. | .finite .., .infinite s => .infinite s
  | .finite s m e, .finite s' m' e' => addFinite s m e s' m' e'

/-- The integer that a number equals, if any. -/
def toInt? (x : Double) : Option Int := x.truncate?.filter x.sameInt

end Double
end Imagewright
