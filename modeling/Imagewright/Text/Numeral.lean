import Imagewright.Number.Double
import Imagewright.Text.Blank
import Imagewright.Text.Digits
import Imagewright.Text.Letters
import Imagewright.Text.Quoted

/-!
# Numerals

Whole numbers and decimals as they are written in documents: blanks around them, a sign, digits of
any script and single underscores between two digits are accepted.

## Main definitions

* `readInt`: a whole number of base ten or eight.
* `readDouble`: a decimal, an infinity or no number.
* `NumeralError`: why a text is no numeral.
-/
namespace Imagewright.Text

/-- Why a text is no numeral. -/
inductive NumeralError where
  /-- It is no whole number of the base. -/
  | notInteger (base : Nat) (text : String)
  /-- It has more digits than are read. -/
  | tooManyDigits (count : Nat)
  /-- It is no decimal. -/
  | notDecimal (text : String)
deriving DecidableEq, Repr

/-- Decimal numerals that are read have at most this many digits. Numbers with more digits could not
be written either. This is left out: a number is written whatever its length. -/
def maxDigits : Nat := 4300

/-- The text of an error. Of a malformed whole number the first 200 characters of its quoted text
are shown. -/
def NumeralError.message : NumeralError → String
  | .notInteger base text =>
    s!"invalid literal for int() with base {base}: " ++ String.ofList ((quote text).toList.take 200)
  | .tooManyDigits count =>
    s!"Exceeds the limit ({maxDigits} digits) for integer string conversion: value has {count} " ++
      "digits; use sys.set_int_max_str_digits() to increase the limit"
  | .notDecimal text => "could not convert string to float: " ++ quote text

/-- A blank that may stand around a numeral. -/
def isNumeralBlank (c : Char) : Bool := isBlank c && !(0x1C ≤ c.toNat && c.toNat ≤ 0x1F)

/-- A numeral without the blanks around it. -/
def trimNumeral (cs : List Char) : List Char :=
  ((cs.dropWhile isNumeralBlank).reverse.dropWhile isNumeralBlank).reverse

/-- The sign in front of a numeral, true for a minus, and what follows it. -/
def takeSign : List Char → Bool × List Char
  | '-' :: rest => (true, rest)
  | '+' :: rest => (false, rest)
  | rest => (false, rest)

/-- The value of a digit of a base up to ten. -/
def digitOfBase? (base : Nat) (c : Char) : Option Nat := (digitValue? c).filter (· < base)

/-- The value and the number of the digits in front of a text, where a single underscore may stand
between two digits, and what follows them. `value` and `count` are those of the digits already
read, and `afterDigit` tells that the last character was one. -/
def digitRun? (base value count : Nat) (afterDigit : Bool) :
    List Char → Option (Nat × Nat × List Char)
  | [] => if afterDigit then some (value, count, []) else none
  | c :: rest =>
    match digitOfBase? base c with
    | some d => digitRun? base (value * base + d) (count + 1) true rest
    | none =>
      if c == '_' then if afterDigit then digitRun? base value count false rest else none
      else if afterDigit then some (value, count, c :: rest) else none

/-- What follows the mark of base eight, a zero and the letter o, and one underscore after it. -/
def dropOctalMark : List Char → List Char
  | z :: o :: rest =>
    if digitValue? z == some 0 && (o == 'o' || o == 'O') then
      match rest with
      | '_' :: rest => rest
      | rest => rest
    else z :: o :: rest
  | rest => rest

/-- A whole number of base `base`, which is ten or eight. -/
def readInt (base : Nat) (s : String) : Except NumeralError Int :=
  let (negative, unsigned) := takeSign (trimNumeral s.toList)
  let digits := if base == 8 then dropOctalMark unsigned else unsigned
  match digitRun? base 0 0 false digits with
  | none => .error (.notInteger base s)
  | some (value, count, rest) =>
    if base == 10 && maxDigits < count then .error (.tooManyDigits count)
    else if rest.isEmpty then .ok (if negative then -(value : Int) else value)
    else .error (.notInteger base s)

/-- A text without its underscores, each of which stands between two digits. -/
def dropUnderscores? (afterDigit : Bool) : List Char → Option (List Char)
  | [] => some []
  | '_' :: c :: rest =>
    if afterDigit && isDigit c then (dropUnderscores? true rest).map (c :: ·) else none
  | c :: rest => if c == '_' then none else (dropUnderscores? (isDigit c) rest).map (c :: ·)

def digitsValue (cs : List Char) : Nat := cs.foldl (fun n c => n * 10 + (digitValue? c).getD 0) 0

/-- The exponent at the end of a decimal, zero if there is none. -/
def readExponent? : List Char → Option Int
  | [] => some 0
  | e :: rest =>
    if e == 'e' || e == 'E' then
      let (negative, digits) := takeSign rest
      if digits.isEmpty || !digits.all isDigit then none
      else some (if negative then -(digitsValue digits : Int) else digitsValue digits)
    else none

/-- The decimal `±digits[.digits][e±digits]`, with a digit on either side of the point. -/
def readDecimal? (negative : Bool) (cs : List Char) : Option Double :=
  let whole := cs.takeWhile isDigit
  let rest := cs.dropWhile isDigit
  let (fraction, rest) := match rest with
    | '.' :: rest => (rest.takeWhile isDigit, rest.dropWhile isDigit)
    | rest => ([], rest)
  if whole.isEmpty && fraction.isEmpty then none
  else
    (readExponent? rest).map fun e =>
      Double.ofDecimal negative (digitsValue (whole ++ fraction)) (e - fraction.length)

/-- A decimal, `inf`, `infinity` or `nan` in any mix of cases. -/
def readDouble (s : String) : Except NumeralError Double :=
  let (negative, unsigned) := takeSign (trimNumeral s.toList)
  let word := String.ofList (unsigned.map asciiLower)
  if word == "inf" || word == "infinity" then .ok (.infinite negative)
  else if word == "nan" then .ok (.nan 0)
  else
    match (dropUnderscores? false unsigned).bind (readDecimal? negative) with
    | some x => .ok x
    | none => .error (.notDecimal s)

end Imagewright.Text
