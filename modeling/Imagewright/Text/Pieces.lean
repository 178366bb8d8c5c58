/-!
# Pieces

## Main definitions

* `pieces`: what stands in front of, between and behind the separators of a text.
* `pathParts`: the parts of a path that say something.
-/
namespace Imagewright.Text

/-- The pieces of the rest of a text. `piece` is the one being read, reversed. -/
def piecesFrom (separator : Char) (piece : List Char) : List Char → List (List Char)
  | [] => [piece.reverse]
  | c :: rest =>
    if c == separator then piece.reverse :: piecesFrom separator [] rest
    else piecesFrom separator (c :: piece) rest

/-- What stands in front of, between and behind the separators of a text. There is always a piece.
-/
def pieces (separator : Char) (cs : List Char) : List (List Char) := piecesFrom separator [] cs

/-- The parts of a path between its slashes. Those that are empty or a dot say nothing and are left
out. -/
def pathParts (path : String) : List (List Char) :=
  (pieces '/' path.toList).filter fun p => p != [] && p != ['.']

end Imagewright.Text
