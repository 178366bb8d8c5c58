import Imagewright.Log.Redaction
import Imagewright.Value.Text

/-!
# Log entries

## Main definitions

* `Log.Level`: how grave an entry is.
* `Log.Demand`: what a logger is asked for.
* `Log.Entry`: what is to be logged.
* `Log.Entry.line?`: what is logged of it, without secrets.
-/
namespace Imagewright.Log

inductive Level where
  | debug
  | info
  | warning
  | error
  | critical
deriving DecidableEq, Repr

namespace Level

def name : Level → String
  | debug => "DEBUG"
  | info => "INFO"
  | warning => "WARNING"
  | error => "ERROR"
  | critical => "CRITICAL"

def words : List (String × Level) := [
  ("debug", debug), ("info", info), ("warning", warning), ("warn", warning), ("error", error),
  ("critical", critical), ("fatal", critical)]

end Level

/-- What a logger is asked for. -/
inductive Demand where
  | entry (level : Level)
  /-- An error, below which the log of the compose shows where it arose. -/
  | failure
  /-- Something that leaves no entry. -/
  | silence
deriving DecidableEq, Repr

namespace Demand

/-- What a logger has or does that cannot be used for an entry. -/
def unusable : List String := [
  "name", "level", "parent", "propagate", "handlers", "disabled", "filters", "root", "manager",
  "log", "handle", "callHandlers", "hasHandlers", "getEffectiveLevel", "isEnabledFor",
  "makeRecord"]

/-- What a logger does without a trace. -/
def silent : List String := ["getChild", "filter", "findCaller", "removeHandler", "removeFilter"]

/-- What a word asks for, if it is anything to do with an entry. Words that a logger does not know
ask for an entry of the level `info`. -/
def ofWord? (word : String) : Option Demand :=
  if unusable.contains word then none
  else if silent.contains word then some silence
  else if word == "exception" then some failure
  else some (entry ((Level.words.lookup word).getD .info))

def level? : Demand → Option Level
  | entry level => some level
  | failure => some .error
  | silence => none

end Demand

/-- What is shown of where an error arose. -/
inductive Trace where
  /-- There is no error. -/
  | absent
  /-- There is one. Its place depends on how the program runs, so a mark stands for it. -/
  | marked
deriving DecidableEq, Repr

def Trace.text : Trace → String
  | .absent => "NoneType: None"
  | .marked => "<traceback>"

structure Entry where
  demand : Demand
  message : String
  /-- The part of an identifier that is shown, unless it is empty. -/
  identifier : String := ""
  /-- The compose whose log takes the entry too, unless it is empty. -/
  composeId : String := ""
  trace : Option Trace := none
  /-- A line is drawn below the entry in the log of the compose. -/
  endSection : Bool := false
deriving DecidableEq, Repr

structure Line where
  level : Level
  text : String
deriving DecidableEq, Repr

/-- Identifiers are shown up to this length. -/
def shownLength : Nat := 8

def shorten (identifier : String) : String := String.ofList (identifier.toList.take shownLength)

/-- The part that is shown of a value that identifies: the beginning of a text or of a list. -/
def shownPart : Value → Except Value.Mismatch String
  | .str s => .ok (shorten s)
  | .list [] => .ok ""
  | .list items => .ok (Value.list (items.take shownLength)).text
  | v => if v.truthy then .error .wrongType else .ok ""

/-- The text of a message. A message that stands alone must be a text. -/
def messageText (message : Value) (alone : Bool) : Except Value.Mismatch String :=
  if alone then message.asText else .ok message.text

namespace Entry

/-- A text, and below it where an error arose. -/
def withTrace (text : String) : Option Trace → String
  | some t => s!"{text}\n{t.text}"
  | none => text

/-- The text of an entry before it is redacted. -/
def fullText (e : Entry) : String :=
  let text := if e.identifier == "" then e.message else s!"{e.message}: {e.identifier}..."
  withTrace text e.trace

def line? (e : Entry) : Option Line := e.demand.level?.map (⟨·, redact e.fullText⟩)

def kept? (e : Entry) : Option Line :=
  let trace := if e.demand == .failure then some Trace.absent else none
  e.line?.map fun l => { l with text := withTrace l.text trace }

end Entry
end Imagewright.Log
