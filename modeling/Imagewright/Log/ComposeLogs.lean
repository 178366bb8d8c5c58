import Imagewright.Assoc
import Imagewright.FileName
import Imagewright.Log.Entry
import Imagewright.Text.Sorted

/-!
# Logs of composes

Each compose has a log of its own, a file in one directory. A log takes entries while its file is
there; it is kept open from the first entry until it is let go of.

## Main definitions

* `Log.ComposeLogs`: the directory and the logs that are open.
* `Log.ComposeLogs.create`: starts the log of a compose.
* `Log.ComposeLogs.write`: logs an entry.
* `Log.ComposeLogs.read?`: what the log of a compose holds.
-/
namespace Imagewright.Log

/-- The logs of composes. -/
structure ComposeLogs where
  directory : String
  /-- Something else stands where the directory should be. -/
  blocked : Bool := false
  /-- The content of the files by the parts of their paths. -/
  files : Assoc (List String) String := []
  opened : List String := []
deriving DecidableEq, Repr

namespace ComposeLogs

/-- Why a log cannot be used. -/
inductive Error where
  | nullCharacter
  | nameTooLong (path : String)
deriving DecidableEq, Repr

def Error.message : Error → String
  | .nullCharacter => "embedded null byte"
  | .nameTooLong path => FileName.tooLongMessage path

def fileName (id : String) : String := id ++ ".log"

def pathOf (id : String) : List String := FileName.parts (fileName id)

def isTooLong (path : List String) : Bool := path.any FileName.isTooLong

/-- A file can stand at the path of a compose: directly in the directory, or in one above it. -/
def isPlace (id : String) : Bool :=
  id.toList.head? != some '/' && (pathOf id).dropLast.all (· == "..")

def record (id : String) (l : Line) : String :=
  s!"image_composer.compose.{id} - {l.level.name} - {l.text}\n"

def separator : Line := ⟨.info, String.ofList (List.replicate 80 '-')⟩

def open_ (s : ComposeLogs) (id : String) : ComposeLogs :=
  if s.opened.contains id then s else { s with opened := s.opened ++ [id] }

def hasFile (s : ComposeLogs) (id : String) : Bool :=
  !s.blocked && isPlace id && s.files.contains (pathOf id)

/-- Starts the log of a compose: the logs after it, the name of its file, and what is logged about
it. If there can be no such file, a warning is logged instead. -/
def create (s : ComposeLogs) (id : String) :
    Except Error (ComposeLogs × Option String × List Line) :=
  let failure : Line := ⟨.warning, "Failed to create compose log file for compose: " ++ id⟩
  let path := pathOf id
  if s.blocked then .ok (s, none, [failure])
  else if FileName.hasNull id then .error .nullCharacter
  else if !isPlace id || isTooLong path then .ok (s, none, [failure])
  else
    let files := if s.files.contains path then s.files else s.files.set path ""
    .ok (open_ { s with files } id, path.getLast?, [])

/-- The log of a compose takes entries: it is open, or its file is there. -/
def takesEntries (s : ComposeLogs) (id : String) : Except Error Bool :=
  if s.opened.contains id then .ok true
  else if s.blocked || FileName.hasNull id || !isPlace id then .ok false
  else if isTooLong (pathOf id) then
    .error (.nameTooLong (FileName.join s.directory (fileName id)))
  else .ok (s.hasFile id)

/-- Writes lines to the log of a compose, which is open after it. -/
def append (s : ComposeLogs) (id : String) (lines : List Line) : ComposeLogs :=
  let path := pathOf id
  let text := (s.files.get? path).getD "" ++ String.join (lines.map (record id))
  open_ { s with files := s.files.set path text } id

/-- Logs an entry: the logs after it, and the line that is logged in any case. -/
def write (s : ComposeLogs) (e : Entry) : Except Error (ComposeLogs × Option Line) := do
  if e.composeId == "" then return (s, e.line?)
  else if ← s.takesEntries e.composeId then
    let lines := e.kept?.toList ++ if e.endSection then [separator] else []
    return (s.append e.composeId lines, e.line?)
  else return (s, e.line?)

/-- Lets go of the log of a compose. Its file stays. -/
def remove (s : ComposeLogs) (id : String) : ComposeLogs :=
  { s with opened := s.opened.filter (· != id) }

/-- What the log of a compose holds, if it has a file. -/
def read? (s : ComposeLogs) (id : String) : Option String :=
  if s.hasFile id then s.files.get? (pathOf id) else none

/-- The composes whose logs are open, in order. -/
def openIds (s : ComposeLogs) : List String := Text.sort s.opened

end ComposeLogs
end Imagewright.Log
