import Imagewright.Text.Word

/-!
# Text patterns

Patterns that are tried at a place of a text. A pattern may end at several places, and these are
listed by preference: a run of characters is taken as long as possible, a pattern is repeated as
often as possible, and of two alternatives the first one goes first. Where patterns follow each
other, the first combination that works decides.

## Main definitions

* `Cursor`: a place in a text.
* `Pattern`: patterns of characters.
* `Pattern.ends`: the places where a pattern that is tried at a place ends.
* `Pattern.accepts`: a pattern works at the start of a text.
-/
namespace Imagewright.Text

/-- A place in a text: the character in front of it, if there is one, and what follows. -/
structure Cursor where
  before : Option Char := none
  rest : List Char
deriving DecidableEq, Repr

/-- A pattern of characters. -/
inductive Pattern where
  | nothing
  | boundary
  /-- The start of the text. -/
  | start
  /-- The end of the text, or the place in front of a line feed that ends it. -/
  | ending
  | one (p : Char → Bool)
  /-- Any number of characters of a class, as many as possible first. -/
  | run (p : Char → Bool)
  /-- One pattern after the other. -/
  | seq (a b : Pattern)
  /-- One pattern or else the other. -/
  | either (a b : Pattern)
  /-- Any number of times the same pattern, as many times as possible first. -/
  | repeated (a : Pattern)

namespace Pattern

/-- The places at which a run of characters may end, the last one first. `found` are those in front
of it. -/
def runEnds (p : Char → Bool) (found : List Cursor) (before : Option Char) :
    List Char → List Cursor
  | [] => ⟨before, []⟩ :: found
  | c :: rest =>
    if p c then runEnds p (⟨before, c :: rest⟩ :: found) (some c) rest
    else ⟨before, c :: rest⟩ :: found

/-- The place behind a character of a class. -/
def oneEnd (p : Char → Bool) : List Char → List Cursor
  | [] => []
  | c :: rest => if p c then [⟨some c, rest⟩] else []

/-- The places at which a repetition may end that is tried at a place, the last one first. One round
leads to the places of `round`, and a round that takes nothing is not gone. As each one takes a
character, no more than `rounds` are gone if that many characters follow. -/
def repeatEnds (round : Cursor → List Cursor) : (rounds : Nat) → Cursor → List Cursor
  | 0, c => [c]
  | rounds + 1, c =>
    ((round c).filter fun m => m.rest.length < c.rest.length).flatMap (repeatEnds round rounds)
      ++ [c]

/-- The places where a pattern ends that is tried at a place, by preference. -/
def ends : Pattern → Cursor → List Cursor
  | nothing, c => [c]
  | boundary, c => if isBoundary c.before c.rest.head? then [c] else []
  | start, c => if c.before.isNone then [c] else []
  | ending, c => if c.rest.isEmpty || c.rest == ['\n'] then [c] else []
  | one p, c => oneEnd p c.rest
  | run p, c => runEnds p [] c.before c.rest
  | seq a b, c => (a.ends c).flatMap b.ends
  | either a b, c => a.ends c ++ b.ends c
  | repeated a, c => repeatEnds a.ends c.rest.length c

/-- The pattern works at the start of a text. -/
def accepts (a : Pattern) (s : String) : Bool := !(a.ends ⟨none, s.toList⟩).isEmpty

instance : Append Pattern := ⟨seq⟩

/-- Patterns one after the other. -/
def all : List Pattern → Pattern
  | [] => nothing
  | [a] => a
  | a :: rest => seq a (all rest)

/-- The first of some patterns that works. -/
def first : List Pattern → Pattern
  | [] => one fun _ => false
  | [a] => a
  | a :: rest => either a (first rest)

def word (s : String) : Pattern := all (s.toList.map fun c => one (· == c))

def many (p : Char → Bool) : Pattern := seq (one p) (run p)

/-- A character of a class, or nothing. -/
def optional (p : Char → Bool) : Pattern := either (one p) nothing

/-- The letter for which a letter stands where case does not count: four letters that are not ASCII
stand for `i`, `k` and `s`. -/
def plainLetter (c : Char) : Char :=
  if 'A' ≤ c && c ≤ 'Z' then Char.ofNat (c.toNat + 32)
  else if c.toNat == 0x130 || c.toNat == 0x131 then 'i'
  else if c.toNat == 0x17F then 's'
  else if c.toNat == 0x212A then 'k'
  else c

/-- A class where case does not count. -/
def anyCase (p : Char → Bool) (c : Char) : Bool := p (plainLetter c)

def wordAnyCase (s : String) : Pattern := all (s.toList.map fun c => one (anyCase (· == c)))

theorem mem_oneEnd {p : Char → Bool} {cs : List Char} {e : Cursor} :
    e ∈ oneEnd p cs ↔ ∃ c rest, cs = c :: rest ∧ p c = true ∧ e = ⟨some c, rest⟩ := by
  cases cs with
  | nil => simp [oneEnd]
  | cons c rest =>
    simp only [oneEnd, List.cons.injEq]
    grind

theorem mem_ends_seq {a b : Pattern} {c e : Cursor} :
    e ∈ (seq a b).ends c ↔ ∃ m ∈ a.ends c, e ∈ b.ends m := by
  simp [ends]

theorem mem_ends_either {a b : Pattern} {c e : Cursor} :
    e ∈ (either a b).ends c ↔ e ∈ a.ends c ∨ e ∈ b.ends c := by
  simp [ends]

end Pattern
end Imagewright.Text
