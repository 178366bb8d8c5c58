import Imagewright.Number.Double

/-!
# Numbers as decimal text

Two ways to write a binary number in decimal: with the fewest digits that read back as the same
number, and rounded to six significant digits.

## Main definitions

* `Double.shortest`: the fewest decimal digits that identify a number.
* `Double.text`: the shortest digits, positional for magnitudes from `1e-4` up to `1e16`.
* `Double.brief`: six significant digits, without zeros at the end.
-/
namespace Imagewright.Double

/-- The least `k` with `num / den < 10 ^ k`, searched from `start` downward for `fuel` steps. -/
def decimalPoint (num den : Nat) (start : Int) : (fuel : Nat) → Int
  | 0 => start
  | fuel + 1 =>
    let (n, d) := scaleBy 10 num den (start - 1)
    if n < d then decimalPoint num den (start - 1) fuel else start

/-- The least `k` with `num / den < 10 ^ k`, for a positive fraction. The search starts above it:
a power of two is less than a power of ten with a third of its exponent. -/
def pointOf (num den : Nat) : Int :=
  let bits : Int := (num.log2 : Int) - (den.log2 : Int) + 1
  let start := (bits * 30103 + 99999) / 100000 + 1
  decimalPoint num den start 6

/-- The multiple of `10 ^ grid` nearest to `num / den` among those in the interval of fractions
that round to it; the interval is given over the denominator `4 * den`, and holds its ends if
`closed` says so. -/
def gridPoint? (num den low high : Nat) (closed : Bool) (grid : Int) : Option Nat :=
  let (n, d) := scaleBy 10 num den grid
  let below := n / d
  let (l, dl) := scaleBy 10 low (4 * den) grid
  let (h, dh) := scaleBy 10 high (4 * den) grid
  let fits (k : Nat) : Bool :=
    if closed then l ≤ k * dl && k * dh ≤ h else l < k * dl && k * dh < h
  match fits below, fits (below + 1) with
  | true, true => some (roundHalfEven n d)
  | true, false => some below
  | false, true => some (below + 1)
  | false, false => none

/-- The first grid, from `places` digits on, that has a point in the interval. -/
def searchGrids (num den low high : Nat) (closed : Bool) (point : Int) :
    (fuel places : Nat) → Nat × Int
  | 0, places => (roundHalfEven (scaleBy 10 num den (point - places)).1
      (scaleBy 10 num den (point - places)).2, point - places)
  | fuel + 1, places =>
    match gridPoint? num den low high closed (point - places) with
    | some digits => (digits, point - places)
    | none => searchGrids num den low high closed point fuel (places + 1)

/-- The fewest decimal digits that read back as `significand * 2 ^ exponent`, as an integer and
the power of ten it counts. -/
def shortest (significand : Nat) (exponent : Int) : Nat × Int :=
  let (num, den) := magnitude significand exponent
  let unit := (magnitude 1 exponent).1
  let narrow := significand == Nat.pow 2 52 && minExponent < exponent
  let low := 4 * num - (if narrow then unit else 2 * unit)
  let high := 4 * num + 2 * unit
  searchGrids num den low high (significand % 2 == 0) (pointOf num den) 16 1

/-- The digits of `n` without the zeros at its end. -/
def significantDigits (n : Nat) : List Char :=
  ((Nat.toDigits 10 n).reverse.dropWhile (· == '0')).reverse

/-- An exponent of ten with its sign and at least two digits. -/
def exponentText (e : Int) : List Char :=
  let digits := Nat.toDigits 10 e.natAbs
  'e' :: (if e < 0 then '-' else '+') :: (if digits.length < 2 then '0' :: digits else digits)

/-- Digits with one before the point and an exponent after them. -/
def scientific (digits : List Char) (point : Int) : List Char :=
  match digits with
  | [] => []
  | [d] => d :: exponentText (point - 1)
  | d :: ds => d :: '.' :: ds ++ exponentText (point - 1)

/-- Digits with the decimal point after the first `point` of them, and `whole` after an integer. -/
def positional (digits : List Char) (point : Int) (whole : List Char) : List Char :=
  if point ≤ 0 then '0' :: '.' :: List.replicate (-point).toNat '0' ++ digits
  else
    let n := point.toNat
    if digits.length ≤ n then digits ++ List.replicate (n - digits.length) '0' ++ whole
    else digits.take n ++ '.' :: digits.drop n

/-- The text of a number with the fewest digits that read back: positional from `1e-4` up to
`1e16`, with `.0` after an integer, and scientific beyond. -/
def text : Double → String
  | .nan _ => "nan"
  | .infinite s => if s then "-inf" else "inf"
  | .finite s m e =>
    let magnitude :=
      if m == 0 then ['0', '.', '0']
      else
        let (digits, grid) := shortest m e
        let shown := significantDigits digits
        let point := grid + digitCount digits
        if -4 < point && point ≤ 16 then positional shown point ['.', '0']
        else scientific shown point
    String.ofList (if s then '-' :: magnitude else magnitude)

/-- The text of a number with at most six significant digits: positional from `1e-4` up to `1e6`
and scientific beyond, without zeros at the end. -/
def brief : Double → String
  | .nan _ => "nan"
  | .infinite s => if s then "-inf" else "inf"
  | .finite s m e =>
    let shown :=
      if m == 0 then ['0']
      else
        let (num, den) := magnitude m e
        let grid := pointOf num den - 6
        let (n, d) := scaleBy 10 num den grid
        let digits := roundHalfEven n d
        let point := grid + digitCount digits
        if -4 < point && point ≤ 6 then positional (significantDigits digits) point []
        else scientific (significantDigits digits) point
    String.ofList (if s then '-' :: shown else shown)

end Imagewright.Double
