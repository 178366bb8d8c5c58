/-!
# Reading UTF-8

A reader for bytes that may not be UTF-8. It stops at no error: every byte, or run of bytes, that
starts a character which is not completed is read as the replacement character.

## Main definitions

* `Utf8.decode`: the characters of bytes.
-/
namespace Imagewright.Text.Utf8

/-- What is read for bytes that are no character. -/
def replacement : Char := '\uFFFD'

/-- The start of a character: its bits so far, how many bytes are missing, and the range of the next
one. -/
structure Partial where
  value : Nat
  missing : Nat
  low : Nat := 0x80
  high : Nat := 0xBF
deriving DecidableEq, Repr

inductive Reading where
  | whole (c : Char)
  | part (p : Partial)
deriving DecidableEq, Repr

/-- What the first byte of a character says. The bounds of the second byte keep out characters that
have a shorter form, surrogates and what is beyond the last code point. -/
def lead (b : Nat) : Reading :=
  if b < 0x80 then .whole (Char.ofNat b)
  else if b < 0xC2 then .whole replacement
  else if b < 0xE0 then .part { value := b - 0xC0, missing := 1 }
  else if b == 0xE0 then .part { value := 0, missing := 2, low := 0xA0 }
  else if b == 0xED then .part { value := 0xD, missing := 2, high := 0x9F }
  else if b < 0xF0 then .part { value := b - 0xE0, missing := 2 }
  else if b == 0xF0 then .part { value := 0, missing := 3, low := 0x90 }
  else if b < 0xF4 then .part { value := b - 0xF0, missing := 3 }
  else if b == 0xF4 then .part { value := 4, missing := 3, high := 0x8F }
  else .whole replacement

/-- What is read once one more byte has come, if the byte goes on with the character. -/
def Partial.next? (p : Partial) (b : Nat) : Option Reading :=
  if p.low ≤ b && b ≤ p.high then
    let value := p.value * 0x40 + (b - 0x80)
    some (if p.missing ≤ 1 then .whole (Char.ofNat value)
      else .part { value := value, missing := p.missing - 1 })
  else none

/-- The characters of bytes, after the start of a character if there is one. -/
def decodeFrom : Option Partial → List UInt8 → List Char
  | none, [] => []
  | some _, [] => [replacement]
  | none, b :: rest =>
    match lead b.toNat with
    | .whole c => c :: decodeFrom none rest
    | .part p => decodeFrom (some p) rest
  | some p, b :: rest =>
    match p.next? b.toNat with
    | some (.whole c) => c :: decodeFrom none rest
    | some (.part p) => decodeFrom (some p) rest
    | none =>
      match lead b.toNat with
      | .whole c => replacement :: c :: decodeFrom none rest
      | .part p => replacement :: decodeFrom (some p) rest

/-- The characters of bytes. -/
def decode (bytes : List UInt8) : List Char := decodeFrom none bytes

end Imagewright.Text.Utf8
