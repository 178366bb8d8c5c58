import Imagewright.Random.Source
import Imagewright.Text.Digits

/-!
# Random identifiers

Identifiers of partition tables, partitions and filesystems.

## Main definitions

* `Random.uuid`: a universally unique identifier of version 4.
* `Random.diskId`: the identifier of a DOS label.
* `Random.volumeId`: the identifier of a FAT filesystem.
-/
namespace Imagewright.Random

variable {σ : Type} [Source σ]

/-- The digits of a number of 128 bits with the version and the variant set: the thirteenth digit is
4 and the two highest bits of the seventeenth are 10. -/
def uuidDigits (n : Nat) : List Char :=
  Text.hexDigits 12 (n / Nat.pow 2 80) ++ '4' :: Text.hexDigits 3 (n / Nat.pow 2 64) ++
    Text.hexDigit (8 + n / Nat.pow 2 60 % 4) :: Text.hexDigits 15 n

/-- Digits in groups of 8, 4, 4, 4 and 12. -/
def groupDigits (digits : List Char) : List Char :=
  let part := fun start length => (digits.drop start).take length
  part 0 8 ++ '-' :: part 8 4 ++ '-' :: part 12 4 ++ '-' :: part 16 4 ++ '-' :: part 20 12

/-- A universally unique identifier of version 4, in lower case. -/
def uuid : StateM σ String := do
  let n ← words 4
  return String.ofList (groupDigits (uuidDigits n))

/-- The identifier of a DOS label: eight digits. -/
def diskId : StateM σ String := do
  let n ← bits 32
  return String.ofList ('0' :: 'x' :: Text.hexDigits 8 n)

def upperDigits (n : Nat) : List Char := (Text.hexDigits 4 n).map Char.toUpper

/-- The identifier of a FAT filesystem: two groups of four digits, in upper case. -/
def volumeId : StateM σ String := do
  let first ← bits 16
  let second ← bits 16
  return String.ofList (upperDigits first ++ '-' :: upperDigits second)

end Imagewright.Random
