import Imagewright.Text.Surrogate
import Imagewright.Text.Utf8

/-!
# Encodings of documents

A document that comes as bytes is written in units of one, two or four bytes. Which of them shows
at its start, since a document starts with an ASCII character: the other bytes of its unit are zero.

## Main definitions

* `Encoding`: the width of a unit and the order of its bytes.
* `Encoding.detect`: the encoding of bytes.
* `Encoding.read?`: the text that bytes are.
-/
namespace Imagewright.Text

/-- How a text is written as bytes. -/
inductive Encoding where
  /-- Units of one byte. -/
  | single
  /-- Units of two bytes. -/
  | double (bigEndian : Bool)
  /-- Units of four bytes. -/
  | quadruple (bigEndian : Bool)
deriving DecidableEq, Repr

namespace Encoding

/-- The encoding that the first bytes tell. Fewer than four bytes tell of units of two only if they
are two. -/
def detect : List UInt8 → Encoding
  | [a, b] => if a == 0 then .double true else if b == 0 then .double false else .single
  | a :: b :: c :: d :: _ =>
    if a == 0 then if b == 0 then .quadruple true else .double true
    else if b == 0 then if c == 0 && d == 0 then .quadruple false else .double false
    else .single
  | _ => .single

/-- The number that two bytes are. -/
def pairValue (bigEndian : Bool) (a b : UInt8) : Nat :=
  if bigEndian then a.toNat * 256 + b.toNat else b.toNat * 256 + a.toNat

/-- The units of two bytes each. There are none if a byte is left over. -/
def pairs? (bigEndian : Bool) : List UInt8 → Option (List Nat)
  | [] => some []
  | a :: b :: rest => (pairs? bigEndian rest).map (pairValue bigEndian a b :: ·)
  | _ => none

/-- The numbers that two units after the other are together. There are none if a unit is left over.
-/
def joinPairs? (bigEndian : Bool) : List Nat → Option (List Nat)
  | [] => some []
  | a :: b :: rest =>
    (joinPairs? bigEndian rest).map ((if bigEndian then a * 65536 + b else b * 65536 + a) :: ·)
  | _ => none

/-- The units of four bytes each. There are none if bytes are left over. -/
def quadruples? (bigEndian : Bool) (bytes : List UInt8) : Option (List Nat) :=
  (pairs? bigEndian bytes).bind (joinPairs? bigEndian)

/-- The characters of units of sixteen bits. Two halves of a pair are one character, and a half that
stands alone is kept. -/
def joinUnits : List Nat → List Char
  | [] => []
  | [unit] => [charOfUnit unit]
  | a :: b :: rest =>
    if isHighHalf a && isLowHalf b then joinHalves a b :: joinUnits rest
    else charOfUnit a :: joinUnits (b :: rest)

/-- The character of a code point. There is none beyond the last one. -/
def charOfCode? (n : Nat) : Option Char := if n < 0x110000 then some (charOfUnit n) else none

/-- The bytes without a mark of their order at the start. -/
def dropMark : List Char → List Char
  | '\uFEFF' :: rest => rest
  | cs => cs

/-- The text that bytes are, none if they are no text of the encoding that they tell. -/
def read? (bytes : List UInt8) : Option (List Char) :=
  match detect bytes with
  | .single => some (dropMark (Utf8.decode bytes))
  | .double bigEndian => (pairs? bigEndian bytes).map joinUnits
  | .quadruple bigEndian => (quadruples? bigEndian bytes).bind (·.mapM charOfCode?)

end Encoding
end Imagewright.Text
