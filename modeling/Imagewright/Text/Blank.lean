/-!
# Blanks

The characters that count as white space, and the operations that trim a text or split it at them.

## Main definitions

* `isBlank`: spaces, tabs, line ends and separators of all scripts.
* `strip`, `stripRight`: a text without the blanks around it.
* `words`: the maximal runs of characters that are not blank.
-/
namespace Imagewright.Text

def blankRanges : List (Nat × Nat) := [
  (0x09, 0x0D), (0x1C, 0x20), (0x85, 0x85), (0xA0, 0xA0), (0x1680, 0x1680), (0x2000, 0x200A),
  (0x2028, 0x2029), (0x202F, 0x202F), (0x205F, 0x205F), (0x3000, 0x3000)]

def isBlank (c : Char) : Bool := blankRanges.any fun r => r.1 ≤ c.toNat && c.toNat ≤ r.2

/-- The characters of a text without the blanks at its end. -/
def trimEnd (cs : List Char) : List Char := (cs.reverse.dropWhile isBlank).reverse

/-- The characters of a text without the blanks at either end. -/
def trim (cs : List Char) : List Char := trimEnd (cs.dropWhile isBlank)

/-- A text without the blanks at either end. -/
def strip (s : String) : String := String.ofList (trim s.toList)

/-- A text without the blanks at its end. -/
def stripRight (s : String) : String := String.ofList (trimEnd s.toList)

/-- A text of blanks only, or of nothing. -/
def isAllBlank (s : String) : Bool := s.toList.all isBlank

/-- The runs of characters that are not blank, where `run` holds, reversed, the one being read. -/
def wordsFrom (run : List Char) : List Char → List (List Char)
  | [] => if run.isEmpty then [] else [run.reverse]
  | c :: rest =>
    if isBlank c then
      if run.isEmpty then wordsFrom [] rest else run.reverse :: wordsFrom [] rest
    else wordsFrom (c :: run) rest

/-- The maximal runs of characters that are not blank. -/
def words (s : String) : List String := (wordsFrom [] s.toList).map String.ofList

/-- A text without the repetitions of `c` at its end. -/
def stripRightOf (c : Char) (s : String) : String :=
  String.ofList (s.toList.reverse.dropWhile (· == c)).reverse

end Imagewright.Text
