import Imagewright.Ini.Document
import Imagewright.Text.Blank
import Imagewright.Text.Lines

/-!
# Reading settings documents

A document is read line by line. A line that is indented deeper than the last header or option adds
to the value of that option; a line that starts with `#` or `;` is a comment.

## Main definitions

* `Ini.read`: the document that a text denotes.
-/
namespace Imagewright.Ini

/-- Values under construction, as the lines they consist of, the last one first. -/
abbrev Draft := Assoc String (List String)

/-- What the lines so far have brought about. -/
structure State where
  sections : Assoc String Draft := []
  defaults : Draft := []
  /-- The section of the last header. -/
  current : Option String := none
  /-- The option that further lines add to. -/
  option : Option String := none
  /-- How deep the last header or option was indented. -/
  indent : Nat := 0
  /-- The options that have a value, each with its section. -/
  seen : List (String × String) := []
  /-- Some line was neither a header nor an option. -/
  malformed : Bool := false

/-- The name of the section whose options hold in all others. -/
def defaultSection : String := "DEFAULT"

def State.changeSection (st : State) (name : String) (change : Draft → Draft) : State :=
  if name == defaultSection then { st with defaults := change st.defaults }
  else { st with sections := st.sections.set name (change ((st.sections.get? name).getD [])) }

def State.lines? (st : State) (name option : String) : Option (List String) :=
  if name == defaultSection then st.defaults.get? option
  else (st.sections.get? name).bind (·.get? option)

/-- Adds a line to the option that further lines add to, if there is one. -/
def State.addLine (st : State) (line : String) : State :=
  match st.current, st.option with
  | some name, some option =>
    match st.lines? name option with
    | some lines => st.changeSection name (·.set option (line :: lines))
    | none => st
  | _, _ => st

/-- The name in a section header: the longest text between the bracket in front and another one. -/
def header? : List Char → Option String
  | '[' :: rest =>
    match rest.reverse.dropWhile (· != ']') with
    | _ :: name => if name.isEmpty then none else some (String.ofList name.reverse)
    | [] => none
  | _ => none

/-- The name and the value of an option, on either side of the first delimiter. -/
def option? (line : List Char) : Option (String × String) :=
  let isDelimiter := fun c => c == '=' || c == ':'
  match line.dropWhile fun c => !isDelimiter c with
  | [] => none
  | _ :: value =>
    let name := line.takeWhile fun c => !isDelimiter c
    some (optionName (String.ofList (Text.trimEnd name)), String.ofList (Text.trim value))

def State.open (st : State) (name : String) : Except Error State :=
  if name == defaultSection then .ok { st with current := some name, option := none }
  else if st.sections.contains name then .error (.duplicateSection name)
  else .ok { st with sections := st.sections.set name [], current := some name, option := none }

/-- Sets an option of the section of the last header. An option without a name takes no further
lines. -/
def State.setOption (st : State) (name option value : String) : Except Error State :=
  if st.seen.contains (name, option) then .error (.duplicateOption name option)
  else
    let st := st.changeSection name (·.set option [value])
    .ok { st with
      option := if option == "" then none else some option
      seen := (name, option) :: st.seen
      malformed := st.malformed || option == "" }

def State.step (st : State) (line : List Char) : Except Error State :=
  let content := Text.trim line
  match content with
  | [] => .ok (st.addLine "")
  | '#' :: _ | ';' :: _ => .ok st
  | content =>
    let indent := (line.takeWhile Text.isBlank).length
    if st.current.isSome && st.option.isSome && st.indent < indent then
      .ok (st.addLine (String.ofList content))
    else
      let st := { st with indent := indent }
      match header? content with
      | some name => st.open name
      | none =>
        match st.current with
        | none => .error .missingHeader
        | some name =>
          match option? content with
          | some (option, value) => st.setOption name option value
          | none => .ok { st with malformed := true }

/-- The options of a section with their lines joined. Blanks at the end of a value go. -/
def finishDraft (draft : Draft) : Options :=
  draft.map fun e => (e.1, Text.stripRight (String.intercalate "\n" e.2.reverse))

def read (text : String) : Except Error Document := do
  let st ← (Text.splitLines text).foldlM State.step {}
  if st.malformed then .error .malformedLine
  else return ⟨st.sections.map fun s => (s.1, finishDraft s.2), finishDraft st.defaults⟩

end Imagewright.Ini
