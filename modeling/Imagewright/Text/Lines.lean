/-!
# Lines

A line ends at a line feed, a carriage return or both together.

## Main definitions

* `splitLines`: the lines of a text, without their ends.
* `unifyLineEnds`: the text with a line feed at the end of each line.
* `dropLineFeed`: the text without one line feed at its end.
-/
namespace Imagewright.Text

/-- The lines of the rest of a text. `line` is the line being read, reversed. -/
def linesFrom (line : List Char) : List Char → List (List Char)
  | [] => [line.reverse]
  | '\r' :: '\n' :: rest => line.reverse :: linesFrom [] rest
  | c :: rest =>
    if c == '\n' || c == '\r' then line.reverse :: linesFrom [] rest else linesFrom (c :: line) rest

/-- The lines of a text, without their ends. After the last line end one more line starts. -/
def splitLines (s : String) : List (List Char) := linesFrom [] s.toList

def unifyLineEnds (s : String) : String :=
  String.ofList (List.intercalate ['\n'] (splitLines s))

/-- A text without one line feed at its end. -/
def dropLineFeed (cs : List Char) : List Char :=
  if cs.getLast? == some '\n' then cs.dropLast else cs

end Imagewright.Text
