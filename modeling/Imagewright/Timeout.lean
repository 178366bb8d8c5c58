import Imagewright.Number.Shortest
import Imagewright.Value.Basic

/-!
# Timeouts

How long something may take. A timeout is a number of seconds that is not at or below zero; what is
no number at all is accepted too, and a timeout of that kind never passes.

## Main definitions

* `Seconds`: a number of seconds, as it is given.
* `Timeout`: a timeout.
* `Timeout.deadline?`: when the timeout has passed, by a clock.
* `Timeout.isOver`: the timeout has passed.
-/
namespace Imagewright

/-- A number of seconds, as it is given. Truth values count as one and zero. -/
inductive Seconds where
  | whole (n : Int)
  | decimal (x : Double)
  | truth (b : Bool)
deriving DecidableEq, Repr

namespace Seconds

def ofValue? : Value → Option Seconds
  | .int n => some (whole n)
  | .float x => some (decimal x)
  | .bool b => some (truth b)
  | _ => none

def toValue : Seconds → Value
  | whole n => .int n
  | decimal x => .float x
  | truth b => .bool b

def text : Seconds → String
  | whole n => toString n
  | decimal x => x.text
  | truth b => if b then "True" else "False"

/-- A number of seconds exactly, also beyond the range of floating-point numbers. -/
def exact : Seconds → Double
  | whole n => .finite (n < 0) n.natAbs 0
  | decimal x => x
  | truth b => .finite false (if b then 1 else 0) 0

/-- A number of seconds as a floating-point number. Integers beyond their range have none. -/
def toDouble? : Seconds → Option Double
  | whole n =>
    match Double.ofInt n with
    | .infinite _ => none
    | x => some x
  | s => some s.exact

/-- The number is at most zero. -/
def isNonPositive (s : Seconds) : Bool := s.exact.isNonPositive

end Seconds

structure Timeout where
  seconds : Seconds
  not_nonPositive : seconds.isNonPositive = false
deriving DecidableEq, Repr

namespace Timeout

/-- Why a number of seconds is no timeout. -/
inductive Defect where
  | notPositive (seconds : Seconds)
deriving DecidableEq, Repr

def Defect.message : Defect → String
  | .notPositive seconds => "timeout_seconds must be positive, got " ++ seconds.text

def ofSeconds (s : Seconds) : Except Defect Timeout :=
  if h : s.isNonPositive = false then .ok ⟨s, h⟩ else .error (.notPositive s)

def standard : Timeout := ⟨.decimal (.finite false (300 * Nat.pow 2 44) (-44)), by decide⟩

def text (t : Timeout) : String := t.seconds.text

/-- The time at which the timeout has passed, by a clock that shows `start` when it begins. Integers
beyond the range of floating-point numbers make none. -/
def deadline? (t : Timeout) (start : Double) : Option Double := t.seconds.toDouble?.map start.add

/-- The timeout has passed when `elapsed` seconds have gone by. By a clock that shows zero when it
begins, that is the deadline. -/
def isOver (t : Timeout) (elapsed : Double) : Bool := t.seconds.exact.atMost elapsed

end Timeout
end Imagewright
