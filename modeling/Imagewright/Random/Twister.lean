import Imagewright.Random.Source

/-!
# The Mersenne twister

A source of words with a state of 624 words, seeded with an integer.

## Main definitions

* `Twister`: the state.
* `Twister.ofSeed`: the state for a seed; the sign does not count.
-/
namespace Imagewright.Random

def stateSize : Nat := 624

/-- The state of the generator. -/
structure Twister where
  state : Array UInt32
  /-- How many words of the state have been given out. -/
  used : Nat

namespace Twister

/-- The word at a position, counted around the state. -/
def wordAt (state : Array UInt32) (i : Nat) : UInt32 := state.getD (i % stateSize) 0

def mix (w : UInt32) : UInt32 := w ^^^ (w >>> 30)

/-- The state that is filled from one word. -/
def fill (first : UInt32) : Array UInt32 :=
  (List.range (stateSize - 1)).foldl (fun state i =>
    let w := state.getD i 0
    state.push (1812433253 * mix w + UInt32.ofNat (i + 1))) #[first]

/-- Stores a word. From the last place it is copied to the first, and the walk goes on behind it. -/
def store (state : Array UInt32) (i : Nat) (w : UInt32) : Array UInt32 × Nat :=
  let state := state.setIfInBounds i w
  if i + 1 < stateSize then (state, i + 1) else (state.setIfInBounds 0 w, 1)

/-- Mixes the words of a key into the state. -/
def absorb (key : Array UInt32) (state : Array UInt32) : Array UInt32 × Nat :=
  (List.range (max stateSize key.size)).foldl (fun (state, i) n =>
    let j := n % key.size
    let w := (state.getD i 0 ^^^ (mix (state.getD (i - 1) 0) * 1664525))
      + key.getD j 0 + UInt32.ofNat j
    store state i w) (state, 1)

/-- Mixes the state with itself. -/
def settle (state : Array UInt32) (i : Nat) : Array UInt32 :=
  ((List.range (stateSize - 1)).foldl (fun (state, i) _ =>
    let w := (state.getD i 0 ^^^ (mix (state.getD (i - 1) 0) * 1566083941)) - UInt32.ofNat i
    store state i w) (state, i)).1

/-- The words of a number, the lowest first, at most `fuel` of them. -/
def wordsOf : (fuel : Nat) → Nat → List UInt32
  | 0, _ => []
  | fuel + 1, n =>
    UInt32.ofNat n :: if n < Nat.pow 2 32 then [] else wordsOf fuel (n / Nat.pow 2 32)

def ofSeed (seed : Int) : Twister :=
  let n := seed.natAbs
  let key := (wordsOf (n.log2 / 32 + 1) n).toArray
  let (state, i) := absorb key (fill 19650218)
  ⟨(settle state i).setIfInBounds 0 0x80000000, stateSize⟩

/-- The next state of all words. -/
def renew (state : Array UInt32) : Array UInt32 :=
  (List.range stateSize).foldl (fun state i =>
    let y := (state.getD i 0 &&& 0x80000000) ||| (wordAt state (i + 1) &&& 0x7fffffff)
    let twist : UInt32 := if y &&& 1 == 0 then 0 else 0x9908b0df
    state.setIfInBounds i (wordAt state (i + 397) ^^^ (y >>> 1) ^^^ twist)) state

/-- What is given out for a word of the state. -/
def temper (y : UInt32) : UInt32 :=
  let y := y ^^^ (y >>> 11)
  let y := y ^^^ ((y <<< 7) &&& 0x9d2c5680)
  let y := y ^^^ ((y <<< 15) &&& 0xefc60000)
  y ^^^ (y >>> 18)

/-- The next word. -/
def next (t : Twister) : UInt32 × Twister :=
  let t := if t.used < stateSize then t else ⟨renew t.state, 0⟩
  (temper (t.state.getD t.used 0), { t with used := t.used + 1 })

instance : Source Twister := ⟨next⟩

end Twister
end Imagewright.Random
