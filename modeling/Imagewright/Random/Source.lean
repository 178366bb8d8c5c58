/-!
# Sources of random words

Whoever draws identifiers draws them from a source of words, whatever it is.

## Main definitions

* `Random.Source`: gives one word of 32 bits after the other.
* `Random.bits`: a number of a given width.
-/
namespace Imagewright.Random

/-- A state that gives one word after the other. -/
class Source (σ : Type) where
  next : σ → UInt32 × σ

variable {σ : Type} [Source σ]

/-- The next word, as a number. -/
def word : StateM σ Nat := fun s => ((Source.next s).1.toNat, (Source.next s).2)

/-- A number of `32 * count` bits; the first word is the lowest. -/
def words : (count : Nat) → StateM σ Nat
  | 0 => pure 0
  | count + 1 => do
    let low ← word
    let high ← words count
    return low + Nat.pow 2 32 * high

/-- A number of `width` bits, at most 32: the highest bits of one word. -/
def bits (width : Nat) : StateM σ Nat := do
  let w ← word
  return w / Nat.pow 2 (32 - width)

end Imagewright.Random
