import Imagewright.Assoc
import Imagewright.Text.Digits
import Imagewright.Text.Numeral
import Imagewright.Text.Surrogate
import Imagewright.Text.Word
import Imagewright.Value.Basic

/-!
# Reading JSON

A reader for JSON texts. The fields of an object keep their order; of two fields of one name the
value of the last one counts, at the place of the first. Besides the numbers of the standard, `NaN`,
`Infinity` and `-Infinity` are read. Lists and objects nest up to a limit.

## Main definitions

* `Json.read`: the value that a text denotes.
* `Json.ReadError`: why a text denotes none.
-/
namespace Imagewright.Json

/-- What holds other values. -/
inductive Container where
  | array
  | object
deriving DecidableEq, Repr

def Container.name : Container → String
  | .array => "array"
  | .object => "object"

/-- Why a text is not read. -/
inductive ReadError where
  /-- The text is no JSON. -/
  | malformed
  /-- The text holds a number with too many digits. -/
  | tooManyDigits (count : Nat)
  /-- A container stands too deep in others. -/
  | tooDeep (c : Container)
deriving DecidableEq, Repr

def ReadError.message : ReadError → String
  | .malformed => "<syntax error>"
  | .tooManyDigits count => (Text.NumeralError.tooManyDigits count).message
  | .tooDeep c =>
    s!"maximum recursion depth exceeded while decoding a JSON {c.name} from a unicode string"

/-- Containers nest this deep unless another limit is given. -/
def maxDepth : Nat := 990

def isSpace (c : Char) : Bool := c == ' ' || c == '\n' || c == '\r' || c == '\t'

/-- A text from its first token on. -/
def skipSpace (cs : List Char) : List Char := cs.dropWhile isSpace

def hexWord? (a b c d : Char) : Option Nat := do
  let a ← Text.hexValue? a
  let b ← Text.hexValue? b
  let c ← Text.hexValue? c
  let d ← Text.hexValue? d
  return ((a * 16 + b) * 16 + c) * 16 + d

def simpleEscape? : Char → Option Char
  | '"' => some '"'
  | '\\' => some '\\'
  | '/' => some '/'
  | 'b' => some '\x08'
  | 'f' => some '\x0c'
  | 'n' => some '\n'
  | 'r' => some '\r'
  | 't' => some '\t'
  | _ => none

/-- The text read so far, reversed, after the unit that waits for its second half is given up. -/
def giveUp (out : List Char) : Option Nat → List Char
  | none => out
  | some half => Text.standIn half :: out

/-- Adds a unit of sixteen bits to the text read so far: a high half waits for its low half. -/
def addUnit (out : List Char) (high : Option Nat) (unit : Nat) : List Char × Option Nat :=
  if Text.isHighHalf unit then (giveUp out high, some unit)
  else
    match high, Text.isLowHalf unit with
    | some half, true => (Text.joinHalves half unit :: out, none)
    | _, _ => (Text.charOfUnit unit :: giveUp out high, none)

/-- The rest of a string, after its opening quote, and what follows its closing quote. -/
def readString (out : List Char) (high : Option Nat) : List Char → Option (String × List Char)
  | [] => none
  | '\\' :: 'u' :: a :: b :: c :: d :: rest =>
    match hexWord? a b c d with
    | some unit =>
      let (out, high) := addUnit out high unit
      readString out high rest
    | none => none
  | '\\' :: e :: rest =>
    match simpleEscape? e with
    | some c => readString (c :: giveUp out high) none rest
    | none => none
  | c :: rest =>
    if c == '"' then some (String.ofList (giveUp out high).reverse, rest)
    else if c == '\\' || c.toNat < 0x20 then none
    else readString (c :: giveUp out high) none rest

/-- The digits in front of a text, and what follows them. -/
def takeDigits (cs : List Char) : List Char × List Char :=
  (cs.takeWhile Text.isAsciiDigit, cs.dropWhile Text.isAsciiDigit)

/-- The whole part of a number: a zero, or digits that do not start with one. -/
def takeWhole : List Char → List Char × List Char
  | '0' :: rest => (['0'], rest)
  | cs => takeDigits cs

/-- The fraction of a number with its point, if there is one. -/
def takeFraction (cs : List Char) : List Char × List Char :=
  match cs with
  | '.' :: rest =>
    let (digits, after) := takeDigits rest
    if digits.isEmpty then ([], cs) else (digits, after)
  | _ => ([], cs)

/-- The exponent of a number, if there is one. -/
def takeExponent (cs : List Char) : Option Int × List Char :=
  match cs with
  | e :: rest =>
    if e == 'e' || e == 'E' then
      let (negative, rest) := Text.takeSign rest
      let (digits, after) := takeDigits rest
      if digits.isEmpty then (none, cs)
      else
        let n : Int := Text.digitsValue digits
        (some (if negative then -n else n), after)
    else (none, cs)
  | [] => (none, cs)

/-- A number of digits, and what follows it. -/
def readDigits (negative : Bool) (cs : List Char) : Except ReadError (Value × List Char) :=
  let (whole, rest) := takeWhole cs
  if whole.isEmpty then .error .malformed
  else
    let (fraction, rest) := takeFraction rest
    let (exponent, rest) := takeExponent rest
    if fraction.isEmpty && exponent.isNone then
      if Text.maxDigits < whole.length then .error (.tooManyDigits whole.length)
      else
        let n : Int := Text.digitsValue whole
        .ok (.int (if negative then -n else n), rest)
    else
      let exponent := exponent.getD 0 - fraction.length
      .ok (.float (Double.ofDecimal negative (Text.digitsValue (whole ++ fraction)) exponent), rest)

def dropWord? (word : String) (cs : List Char) : Option (List Char) :=
  if word.toList.isPrefixOf cs then some (cs.drop word.length) else none

def wordValues : List (String × Value) := [
  ("null", .null), ("true", .bool true), ("false", .bool false), ("NaN", .float (.nan 0)),
  ("Infinity", .float (.infinite false)), ("-Infinity", .float (.infinite true))]

/-- A word or a number, and what follows it. -/
def readScalar (cs : List Char) : Except ReadError (Value × List Char) :=
  match wordValues.findSome? fun w => (dropWord? w.1 cs).map (w.2, ·) with
  | some found => .ok found
  | none =>
    match cs with
    | '-' :: rest => readDigits true rest
    | cs => readDigits false cs

mutual

/-- A value, and what follows it. Containers may nest `depth` levels more, and the fuel bounds the
number of tokens. -/
def readValue (depth : Nat) : (fuel : Nat) → List Char → Except ReadError (Value × List Char)
  | 0, _ => .error .malformed
  | fuel + 1, cs =>
    match cs with
    | '"' :: rest =>
      match readString [] none rest with
      | some (s, rest) => .ok (.str s, rest)
      | none => .error .malformed
    | '[' :: rest =>
      if depth == 0 then .error (.tooDeep .array)
      else
        match skipSpace rest with
        | ']' :: rest => .ok (.list [], rest)
        | rest => do
          let (items, rest) ← readItems (depth - 1) fuel [] rest
          .ok (.list items, rest)
    | '{' :: rest =>
      if depth == 0 then .error (.tooDeep .object)
      else
        match skipSpace rest with
        | '}' :: rest => .ok (.obj [], rest)
        | rest => do
          let (fields, rest) ← readFields (depth - 1) fuel [] rest
          .ok (.obj fields, rest)
    | cs => readScalar cs

/-- The items of a list up to its end, after those in `out`, which are reversed. -/
def readItems (depth : Nat) : (fuel : Nat) → (out : List Value) → List Char →
    Except ReadError (List Value × List Char)
  | 0, _, _ => .error .malformed
  | fuel + 1, out, cs => do
    let (v, rest) ← readValue depth fuel (skipSpace cs)
    match skipSpace rest with
    | ',' :: rest => readItems depth fuel (v :: out) rest
    | ']' :: rest => .ok ((v :: out).reverse, rest)
    | _ => .error .malformed

/-- The fields of an object up to its end, after those in `out`. -/
def readFields (depth : Nat) : (fuel : Nat) → (out : List (String × Value)) → List Char →
    Except ReadError (List (String × Value) × List Char)
  | 0, _, _ => .error .malformed
  | fuel + 1, out, cs =>
    match skipSpace cs with
    | '"' :: rest =>
      match readString [] none rest with
      | none => .error .malformed
      | some (key, rest) =>
        match skipSpace rest with
        | ':' :: rest => do
          let (v, rest) ← readValue depth fuel (skipSpace rest)
          match skipSpace rest with
          | ',' :: rest => readFields depth fuel (Assoc.set out key v) rest
          | '}' :: rest => .ok (Assoc.set out key v, rest)
          | _ => .error .malformed
        | _ => .error .malformed
    | _ => .error .malformed

end

/-- The value that a text denotes, if its containers nest at most `depth` levels. -/
def read (s : String) (depth : Nat := maxDepth) : Except ReadError Value := do
  let cs := s.toList
  let (v, rest) ← readValue depth (2 * cs.length + 2) (skipSpace cs)
  if (skipSpace rest).isEmpty then .ok v else .error .malformed

end Imagewright.Json
