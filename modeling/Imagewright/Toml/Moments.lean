import Imagewright.Moment
import Imagewright.Text.Numeral
import Imagewright.Text.Word

/-!
# Moments of a TOML document

A day is written as year, month and day, and a time as hour, minute and second. Both together have a
letter or a space between them, and may end with a distance from universal time.

## Main definitions

* `Toml.readMoment`: the moment in front of a text.
-/
namespace Imagewright.Toml

/-- The number of some digits in front of a text, and what follows them. -/
def takeNumber? (width : Nat) (cs : List Char) : Option (Nat × List Char) :=
  let digits := (cs.take width).takeWhile Text.isAsciiDigit
  if digits.length == width then some (Text.digitsValue digits, cs.drop width) else none

def dropMark? (mark : Char) : List Char → Option (List Char)
  | c :: rest => if c == mark then some rest else none
  | [] => none

/-- The day in front of a text, and what follows it. -/
def takeDate? (cs : List Char) : Option (Date × List Char) := do
  let (year, cs) ← takeNumber? 4 cs
  let (month, cs) ← takeNumber? 2 (← dropMark? '-' cs)
  let (day, cs) ← takeNumber? 2 (← dropMark? '-' cs)
  return (⟨year, month, day⟩, cs)

/-- The time in front of a text, without parts of a second, and what follows it. -/
def takeClock? (cs : List Char) : Option (Clock × List Char) := do
  let (hour, cs) ← takeNumber? 2 cs
  let (minute, cs) ← takeNumber? 2 (← dropMark? ':' cs)
  let (second, cs) ← takeNumber? 2 (← dropMark? ':' cs)
  return (⟨hour, minute, second, 0⟩, cs)

/-- The digits behind a point in front of a text, and what follows them. -/
def takeParts (cs : List Char) : List Char × List Char :=
  match cs with
  | '.' :: rest => (rest.takeWhile Text.isAsciiDigit, rest.dropWhile Text.isAsciiDigit)
  | _ => ([], cs)

/-- The microseconds of a time that stands alone. Three to six digits are their number, and fewer
count as none. -/
def plainMicroseconds (digits : List Char) : Nat :=
  if digits.length < 3 then 0 else Text.digitsValue (digits.take 6)

def microseconds (digits : List Char) : Nat :=
  let n := Text.digitsValue digits
  if digits.length ≤ 6 then n * Nat.pow 10 (6 - digits.length)
  else n / Nat.pow 10 (digits.length - 6)

/-- The minutes of a distance of hours and minutes from universal time, and what follows it. -/
def takeDistance? (cs : List Char) : Option (Int × List Char) := do
  let (hours, cs) ← takeNumber? 2 cs
  let (minutes, cs) ← takeNumber? 2 (← dropMark? ':' cs)
  if hours < 24 && minutes < 60 then some (hours * 60 + minutes, cs) else none

/-- The distance from universal time in front of a text, if one is given, and what follows it. A
small letter for universal time counts only behind parts of a second. -/
def takeAhead? (hasParts : Bool) (cs : List Char) : Option (Option Int × List Char) :=
  match cs with
  | 'Z' :: rest => some (some 0, rest)
  | 'z' :: rest => some (if hasParts then some 0 else none, rest)
  | '+' :: rest => (takeDistance? rest).map fun d => (some d.1, d.2)
  | '-' :: rest => (takeDistance? rest).map fun d => (some (-d.1), d.2)
  | _ => some (none, cs)

/-- A time that stands alone. What is written on behind it says nothing. -/
def readClock? (cs : List Char) : Option (Moment × List Char) := do
  let (clock, rest) ← takeClock? cs
  let (digits, rest) := takeParts rest
  let clock := { clock with microsecond := plainMicroseconds digits }
  if clock.isValid then some (.clock clock, rest) else none

/-- A day, and the time behind it if there is one. -/
def readDate? (cs : List Char) : Option (Moment × List Char) := do
  let (date, rest) ← takeDate? cs
  if !date.isValid then none
  else if startsClock rest then
    let (clock, rest) ← takeClock? (rest.drop 1)
    let (digits, rest) := takeParts rest
    let clock := { clock with microsecond := microseconds digits }
    let (ahead, rest) ← takeAhead? (!digits.isEmpty) rest
    if clock.isValid then some (.instant date clock ahead, rest) else none
  else some (.date date, rest)
where
  /-- A time follows, after a letter or a space. -/
  startsClock : List Char → Bool
    | c :: d :: _ => c == 'T' || c == 't' || (c == ' ' && Text.isAsciiDigit d)
    | _ => false

/-- The moment in front of a text, and what follows it. There is none if the text does not start
like one, and if it starts like one, the moment may be malformed. -/
def readMoment (cs : List Char) : Option (Option (Moment × List Char)) :=
  if ((takeNumber? 2 cs).bind (dropMark? ':' ·.2)).isSome then some (readClock? cs)
  else if ((takeNumber? 4 cs).bind (dropMark? '-' ·.2)).isSome then some (readDate? cs)
  else none

end Imagewright.Toml
