import Imagewright.Service.Fault
import Imagewright.Text.Numeral
import Imagewright.Text.Pieces
import Imagewright.Text.Word

/-!
# Integers of fields

A field for an integer may also hold a text or a float that means one. A text may have blanks around
it, a plus sign, zeros in front, single underscores between its digits and a fraction of zeros.

## Main definitions

* `Service.readNumeral`: the integer that a text denotes.
* `Service.integerOfDouble`: the integer that a float is.
-/
namespace Imagewright.Service

/-- A digit that is no zero. -/
def isPositiveDigit (c : Char) : Bool := Text.isAsciiDigit c && c != '0'

/-- What follows zeros, the last of which is `last`. Underscores may stand among them, and a minus
may end them. If nothing follows, the last one is the number. -/
def afterZeros? (last : Char) : List Char → Option (List Char)
  | [] => some [last]
  | c :: rest =>
    if c == '0' || c == '_' then afterZeros? c rest
    else if isPositiveDigit c || c == '-' then some (c :: rest)
    else none

/-- A numeral without the zeros in front of it. It has to start with a digit. -/
def dropZeros? : List Char → Option (List Char)
  | [] => none
  | c :: rest =>
    if isPositiveDigit c then some (c :: rest)
    else if c == '0' then afterZeros? c rest
    else none

/-- A numeral without its fraction, if that is a point and zeros. -/
def dropFraction (cs : List Char) : List Char :=
  let fraction := (cs.dropWhile (· != '.')).drop 1
  if !fraction.isEmpty && fraction.all (· == '0') then cs.takeWhile (· != '.') else cs

def hasSingleUnderscores (cs : List Char) : Bool :=
  (Text.pieces '_' cs).all (!·.isEmpty)

/-- A numeral with nothing but a minus and digits, as far as what is left out may be left out. -/
def cleanNumeral? (cs : List Char) : Option (List Char) := do
  let cs ← match Text.trimNumeral cs with
    | '+' :: '-' :: _ => none
    | '+' :: rest => some rest
    | cs => some cs
  let digits ← match dropFraction cs with
    | '-' :: rest => (dropZeros? rest).map ('-' :: ·)
    | cs => dropZeros? cs
  if hasSingleUnderscores digits then some (digits.filter (· != '_')) else none

/-- The integer of a minus and digits. Without a single zero they do not start with one. The limit
on the number of digits is found before anything behind them. -/
def readPlain (cs : List Char) : Except FaultKind Int :=
  let (negative, unsigned) := match cs with
    | '-' :: rest => (true, rest)
    | cs => (false, cs)
  let digits := unsigned.takeWhile Text.isAsciiDigit
  let rest := unsigned.dropWhile Text.isAsciiDigit
  let n : Int := Text.digitsValue digits
  if digits.isEmpty then .error .noNumeral
  else if digits.head? == some '0' then
    if unsigned.length == 1 then .ok 0 else .error .noNumeral
  else if Text.maxDigits < digits.length + (if negative then 1 else 0) then .error .longNumeral
  else if rest.isEmpty then .ok (if negative then -n else n)
  else .error .noNumeral

def readNumeral (s : String) : Except FaultKind Int :=
  readPlain ((cleanNumeral? s.toList).getD s.toList)

/-- Floats of this magnitude or more are no integers of a field. -/
def integerBound : Int := Int.ofNat (Nat.pow 2 63)

def integerOfDouble (x : Double) : Except FaultKind Int :=
  match x with
  | .finite .. =>
    match x.toInt? with
    | some n => if n.natAbs < integerBound then .ok n else .error .longNumeral
    | none => .error .fraction
  | _ => .error .notFinite

end Imagewright.Service
