import Imagewright.Text.Letters
import Imagewright.Text.Numeral
import Imagewright.Text.Word
import Imagewright.Value.Text

/-!
# Data sizes

Sizes in bytes, given as a number or as a text with a unit such as `2 GiB`.

## Main definitions

* `Blueprint.parseSize`: the number of bytes that a value denotes.
* `Blueprint.unitFactor?`: the bytes of a unit.
-/
namespace Imagewright.Blueprint

/-- Why a value denotes no size. -/
inductive SizeError where
  | invalid (v : Value)
  | negative (n : Int)
  | unknownUnit (unit : String) (v : Value)
  | numeral (e : Text.NumeralError)

def SizeError.message : SizeError → String
  | .invalid v => "Invalid data size: " ++ v.quoted
  | .negative n => s!"Data size cannot be negative: {n}"
  | .unknownUnit unit v => s!"Unknown data size unit {Text.quote unit} in {v.quoted}"
  | .numeral e => e.message

/-- The units in lower case, and their bytes. -/
def units : List (String × Nat) := [
  ("b", 1), ("kb", 1000), ("kib", 1024), ("mb", 1000000), ("mib", 1048576), ("gb", 1000000000),
  ("gib", 1073741824), ("tb", 1000000000000), ("tib", 1099511627776)]

/-- The bytes of a unit, in any mix of cases. No unit means bytes. -/
def unitFactor? (unit : List Char) : Option Nat :=
  units.lookup (String.ofList (if unit.isEmpty then ['b'] else unit.map Text.asciiLower))

/-- The digits and the unit of a size: digits and then letters, with blanks before, between and
behind them. -/
def splitSize? (cs : List Char) : Option (List Char × List Char) :=
  let number := cs.dropWhile Text.isBlank
  let rest := (number.dropWhile Text.isDigit).dropWhile Text.isBlank
  let digits := number.takeWhile Text.isDigit
  if digits.isEmpty || !(rest.dropWhile Text.isAsciiLetter).all Text.isBlank then none
  else some (digits, rest.takeWhile Text.isAsciiLetter)

/-- The size that a text denotes; `v` is the value that the text belongs to. -/
def parseSizeText (v : Value) (s : String) : Except SizeError Nat :=
  match splitSize? s.toList with
  | none => .error (.invalid v)
  | some (digits, unit) =>
    match unitFactor? unit with
    | none => .error (.unknownUnit (String.ofList unit) v)
    | some factor =>
      if Text.maxDigits < digits.length then .error (.numeral (.tooManyDigits digits.length))
      else .ok (Text.digitsValue digits * factor)

/-- The number of bytes that a value denotes. A number counts bytes; of any other value its text is
read. -/
def parseSize (v : Value) : Except SizeError Nat :=
  match v with
  | .bool _ => .error (.invalid v)
  | .int n => if n < 0 then .error (.negative n) else .ok n.toNat
  | v => parseSizeText v v.text

end Imagewright.Blueprint
