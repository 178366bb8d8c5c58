import Imagewright.Text.Digits

/-!
# Layouts

How a text is laid out in a template: the character that fills up, the side where the text stands,
the width to fill and the number of characters to keep. A layout may also ask for what only numbers
have, which is refused.

## Main definitions

* `Layout`: what a layout asks for.
* `Layout.read`: the layout that a text asks for.
* `Layout.apply`: a text, laid out.
* `Layout.Error`: why a layout cannot be used.
-/
namespace Imagewright.Text

/-- Where a text stands in the width that it fills. -/
inductive Alignment where
  | left
  | right
  | center
  /-- Behind its sign, which only numbers have. -/
  | inside
deriving DecidableEq, Repr

def Alignment.ofMark? : Char → Option Alignment
  | '<' => some left
  | '>' => some right
  | '^' => some center
  | '=' => some inside
  | _ => none

/-- What a layout asks for. -/
structure Layout where
  fill : Char := ' '
  alignment : Alignment := .left
  sign : Option Char := none
  /-- A zero has no sign. -/
  plainZero : Bool := false
  alternate : Bool := false
  width : Option Nat := none
  /-- The mark between groups of digits. -/
  grouping : Option Char := none
  /-- How many characters are kept. -/
  kept : Option Nat := none
  /-- The kind of the value, which is a text. -/
  kind : Char := 's'
deriving DecidableEq, Repr

namespace Layout

/-- Why a layout cannot be used. -/
inductive Error where
  | tooManyDigits
  | twoGroupings
  | noPrecision
  | malformed (layout : List Char)
  | groupedKind (grouping kind : Char)
  | unknownKind (kind : Char)
  | sign
  | space
  | plainZero
  | alternate
  | inside
  | tooWide
deriving DecidableEq, Repr

/-- A character as it is shown, by its number if it is no visible ASCII character. -/
def showMark (c : Char) : String :=
  if 32 < c.toNat && c.toNat < 128 then c.toString
  else "\\x" ++ String.ofList (Nat.toDigits 16 c.toNat)

def Error.message : Error → String
  | .tooManyDigits => "Too many decimal digits in format string"
  | .twoGroupings => "Cannot specify both ',' and '_'."
  | .noPrecision => "Format specifier missing precision"
  | .malformed layout =>
    s!"Invalid format specifier '{String.ofList layout}' for object of type 'str'"
  | .groupedKind grouping kind => s!"Cannot specify '{grouping}' with '{showMark kind}'."
  | .unknownKind kind => s!"Unknown format code '{showMark kind}' for object of type 'str'"
  | .sign => "Sign not allowed in string format specifier"
  | .space => "Space not allowed in string format specifier"
  | .plainZero => "Negative zero coercion (z) not allowed in string format specifier"
  | .alternate => "Alternate form (#) not allowed in string format specifier"
  | .inside => "'=' alignment not allowed in string format specifier"
  | .tooWide => ""

/-- Numbers in templates are at most this great. -/
def maxNumber : Nat := 9223372036854775807

/-- The number of the digits in front of a text, if there are any, and what follows them. -/
def takeNumber (value : Option Nat) : List Char → Except Error (Option Nat × List Char)
  | [] => .ok (value, [])
  | c :: rest =>
    match digitValue? c with
    | none => .ok (value, c :: rest)
    | some d =>
      let n := value.getD 0 * 10 + d
      if maxNumber < n then .error .tooManyDigits else takeNumber (some n) rest

/-- What follows a mark in front of a text, if the mark is there. -/
def takeMark (mark : Char) : List Char → Bool × List Char
  | c :: rest => if c == mark then (true, rest) else (false, c :: rest)
  | [] => (false, [])

/-- The fill and the alignment in front of a layout. A fill stands only in front of an alignment. -/
def takeAlignment (cs : List Char) : Option Char × Option Alignment × List Char :=
  let plain := match cs with
    | a :: rest =>
      match Alignment.ofMark? a with
      | some alignment => (none, some alignment, rest)
      | none => (none, none, cs)
    | [] => (none, none, [])
  match cs with
  | fill :: a :: rest =>
    match Alignment.ofMark? a with
    | some alignment => (some fill, some alignment, rest)
    | none => plain
  | _ => plain

def takeSignMark : List Char → Option Char × List Char
  | c :: rest => if c == ' ' || c == '+' || c == '-' then (some c, rest) else (none, c :: rest)
  | [] => (none, [])

/-- The mark between groups of digits in front of a layout. There is at most one. -/
def takeGrouping (cs : List Char) : Except Error (Option Char × List Char) :=
  let (comma, cs) := takeMark ',' cs
  let (underscore, cs) := takeMark '_' cs
  if comma && underscore then .error .twoGroupings
  else if underscore && cs.head? == some ',' then .error .twoGroupings
  else .ok (if comma then some ',' else if underscore then some '_' else none, cs)

/-- The number of characters to keep, behind a point. -/
def takePrecision (cs : List Char) : Except Error (Option Nat × List Char) := do
  match takeMark '.' cs with
  | (false, cs) => return (none, cs)
  | (true, cs) =>
    let (n, cs) ← takeNumber none cs
    if n.isNone then throw .noPrecision
    return (n, cs)

/-- The kinds of numbers whose digits can be grouped, by any mark or by an underscore only. -/
def groupedKinds (grouping : Char) : List Char :=
  "defgEG%F\x00".toList ++ if grouping == '_' then "boxX".toList else []

/-- A kind goes with a mark between groups of digits. -/
def checkGrouping (grouping : Option Char) (kind : Char) : Except Error Unit :=
  match grouping with
  | some g => if (groupedKinds g).contains kind then .ok () else .error (.groupedKind g kind)
  | none => .ok ()

/-- The layout that a text asks for. A zero in front of the width fills up with zeros, unless the
fill is given. -/
def read (layout : List Char) : Except Error Layout := do
  let (fill, alignment, cs) := takeAlignment layout
  let (sign, cs) := takeSignMark cs
  let (plainZero, cs) := takeMark 'z' cs
  let (alternate, cs) := takeMark '#' cs
  let (zero, cs) := if fill.isSome then (false, cs) else takeMark '0' cs
  let (width, cs) ← takeNumber none cs
  let (grouping, cs) ← takeGrouping cs
  let (kept, cs) ← takePrecision cs
  let kind ← match cs with
    | [] => pure 's'
    | [kind] => pure kind
    | _ => throw (.malformed layout)
  checkGrouping grouping kind
  return {
    fill := fill.getD (if zero then '0' else ' ')
    alignment := alignment.getD .left
    sign, plainZero, alternate, width, grouping, kept, kind }

def check (l : Layout) : Except Error Unit :=
  if l.kind != 's' then .error (.unknownKind l.kind)
  else if l.sign == some ' ' then .error .space
  else if l.sign.isSome then .error .sign
  else if l.plainZero then .error .plainZero
  else if l.alternate then .error .alternate
  else if l.alignment == .inside then .error .inside
  else .ok ()

def maxWidth : Nat := 100000000

/-- The number of fill characters in front of a text, of `missing` ones in all. -/
def fillBefore (alignment : Alignment) (missing : Nat) : Nat :=
  match alignment with
  | .right => missing
  | .center => missing / 2
  | .left | .inside => 0

/-- The characters that are kept of a text, filled up to the width. -/
def fillUp (l : Layout) (cs : List Char) : List Char :=
  let kept := match l.kept with
    | some n => cs.take n
    | none => cs
  let missing := l.width.getD 0 - kept.length
  let before := fillBefore l.alignment missing
  List.replicate before l.fill ++ kept ++ List.replicate (missing - before) l.fill

/-- A text, laid out. An empty layout leaves it as it is. -/
def apply (layout cs : List Char) : Except Error (List Char) := do
  if layout.isEmpty then return cs
  let l ← read layout
  l.check
  if maxWidth < l.width.getD 0 then throw .tooWide
  return l.fillUp cs

end Layout
end Imagewright.Text
