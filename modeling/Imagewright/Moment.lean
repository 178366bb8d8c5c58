/-!
# Moments

Days of the calendar, times of a day, and both together with the distance from universal time if it
is known.

## Main definitions

* `Date`, `Clock`: days and times of a day.
* `Moment`: what a document gives of them.
* `Moment.same`: equality; two that know their distance from universal time are compared there.
* `Moment.text`, `Moment.written`, `Moment.quoted`: the texts of a moment.
-/
namespace Imagewright

/-- A day of the calendar, counted from one in all its parts. -/
structure Date where
  year : Nat
  month : Nat
  day : Nat
deriving DecidableEq, Repr

namespace Date

def isLeapYear (year : Nat) : Bool := year % 4 == 0 && (year % 100 != 0 || year % 400 == 0)

def monthLengths (year : Nat) : List Nat :=
  [31, if isLeapYear year then 29 else 28, 31, 30, 31, 30, 31, 31, 30, 31, 30, 31]

/-- The day is in the calendar, which ends after the year 9999. -/
def isValid (d : Date) : Bool :=
  1 ≤ d.year && d.year ≤ 9999 && 1 ≤ d.month && 1 ≤ d.day &&
    ((monthLengths d.year)[d.month - 1]?).any (d.day ≤ ·)

/-- The number of days up to a day, from the first year on. -/
def dayNumber (d : Date) : Nat :=
  let y := d.year - 1
  365 * y + y / 4 - y / 100 + y / 400 +
    ((monthLengths d.year).take (d.month - 1)).foldl (· + ·) 0 + d.day

end Date

/-- A time of a day. -/
structure Clock where
  hour : Nat
  minute : Nat
  second : Nat
  microsecond : Nat := 0
deriving DecidableEq, Repr

namespace Clock

/-- The time comes every day. -/
def isValid (c : Clock) : Bool :=
  c.hour < 24 && c.minute < 60 && c.second < 60 && c.microsecond < 1000000

/-- The seconds of a day up to a time, leaving out parts of one. -/
def seconds (c : Clock) : Nat := (c.hour * 60 + c.minute) * 60 + c.second

end Clock

/-- What a document gives of days and times. -/
inductive Moment where
  | date (d : Date)
  | clock (c : Clock)
  /-- A time of a day of the calendar, and how many minutes it is ahead of universal time. -/
  | instant (d : Date) (c : Clock) (ahead : Option Int)
deriving DecidableEq, Repr

namespace Moment

/-- The seconds up to a time of a day, in universal time. -/
def universalSeconds (d : Date) (c : Clock) (ahead : Int) : Int :=
  (d.dayNumber * 86400 + c.seconds : Nat) - ahead * 60

/-- Equality. Two that know their distance from universal time are compared there. -/
def same : Moment → Moment → Bool
  | .instant d c (some a), .instant d' c' (some a') =>
    universalSeconds d c a == universalSeconds d' c' a' && c.microsecond == c'.microsecond
  | m, m' => m == m'

/-- A number with zeros in front, up to a width. -/
def padded (width n : Nat) : String :=
  let digits := Nat.toDigits 10 n
  String.ofList (List.replicate (width - digits.length) '0' ++ digits)

def dateText (d : Date) : String := s!"{padded 4 d.year}-{padded 2 d.month}-{padded 2 d.day}"

/-- The text of a time. Parts of a second are shown if there are any. -/
def clockText (c : Clock) : String :=
  s!"{padded 2 c.hour}:{padded 2 c.minute}:{padded 2 c.second}" ++
    if c.microsecond == 0 then "" else "." ++ padded 6 c.microsecond

def aheadText (ahead : Int) : String :=
  let minutes := ahead.natAbs
  (if ahead < 0 then "-" else "+") ++ padded 2 (minutes / 60) ++ ":" ++ padded 2 (minutes % 60)

def text : Moment → String
  | .date d => dateText d
  | .clock c => clockText c
  | .instant d c ahead => s!"{dateText d} {clockText c}" ++ (ahead.map aheadText).getD ""

/-- The text of a moment in answers, where a letter stands between day and time and another one for
universal time. -/
def written : Moment → String
  | .instant d c ahead =>
    let distance := match ahead with
      | some 0 => "Z"
      | some a => aheadText a
      | none => ""
    s!"{dateText d}T{clockText c}{distance}"
  | m => m.text

/-- The numbers of a time, without zeros at the end. -/
def clockNumbers (c : Clock) : List Nat :=
  [c.hour, c.minute] ++
    if c.microsecond != 0 then [c.second, c.microsecond]
    else if c.second != 0 then [c.second]
    else []

def callText (name : String) (numbers : List Nat) : String :=
  let listed := String.intercalate ", " (numbers.map toString)
  s!"datetime.{name}({listed})"

/-- The text of a moment where texts are quoted. The distance from universal time is not shown. -/
def quoted : Moment → String
  | .date d => callText "date" [d.year, d.month, d.day]
  | .clock c => callText "time" (clockNumbers c)
  | .instant d c _ => callText "datetime" ([d.year, d.month, d.day] ++ clockNumbers c)

end Moment
end Imagewright
