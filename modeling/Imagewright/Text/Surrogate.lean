/-!
# Lone surrogates

Units of sixteen bits pair up to characters beyond the first 65536. An escape may give one half of a
pair alone, which is no character. A text holds such a half as a stand-in: the character that many
places behind it in a plane where no characters are assigned. A text that holds one of these
characters itself is not told apart from one with the half.

## Main definitions

* `standIn`: the character that holds a half.
* `half?`: the half that a character holds.
* `joinHalves`: the character that two halves are.
* `isWhole`, `loneHalves?`: a text without lone halves, and the first lone halves of a text.
-/
namespace Imagewright.Text

/-- The distance from a half to its stand-in. -/
def standInOffset : Nat := 0xD0000

/-- A unit that is the first half of a pair. -/
def isHighHalf (unit : Nat) : Bool := 0xD800 ≤ unit && unit < 0xDC00

def isLowHalf (unit : Nat) : Bool := 0xDC00 ≤ unit && unit < 0xE000

/-- The character that holds a half. -/
def standIn (unit : Nat) : Char := Char.ofNat (unit + standInOffset)

/-- The half that a character holds, if it is a stand-in. -/
def half? (c : Char) : Option Nat :=
  let unit := c.toNat - standInOffset
  if isHighHalf unit || isLowHalf unit then some unit else none

/-- The character that a high and a low half are together. -/
def joinHalves (high low : Nat) : Char :=
  Char.ofNat (0x10000 + (high - 0xD800) * 0x400 + (low - 0xDC00))

/-- The text holds no lone half. -/
def isWhole (s : String) : Bool := s.toList.all fun c => (half? c).isNone

/-- Lone halves of a text that stand together. -/
structure LoneHalves where
  /-- How many characters stand before them. -/
  start : Nat
  first : Nat
  /-- How many there are after the first one. -/
  more : Nat
deriving DecidableEq, Repr

/-- The first lone halves of a text, which keep it from being written as bytes. -/
def loneHalves? (s : String) : Option LoneHalves :=
  let behind := s.toList.dropWhile fun c => (half? c).isNone
  match behind with
  | [] => none
  | c :: rest =>
    some {
      start := s.length - behind.length
      first := (half? c).getD c.toNat
      more := (rest.takeWhile fun c => (half? c).isSome).length }

/-- The character of a unit that is no half, or the stand-in of a lone half. -/
def charOfUnit (unit : Nat) : Char :=
  if isHighHalf unit || isLowHalf unit then standIn unit else Char.ofNat unit

theorem toNat_charOfNat {n : Nat} (h : n.isValidChar) : (Char.ofNat n).toNat = n := by
  rw [Char.ofNat, dif_pos h]
  rfl

end Imagewright.Text
