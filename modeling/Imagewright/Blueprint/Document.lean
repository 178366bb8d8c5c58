import Imagewright.Blueprint.Decode
import Imagewright.FileName
import Imagewright.Json.Reader
import Imagewright.Text.Lines

/-!
# Blueprint documents

Blueprints are written in TOML or in JSON. The reader of TOML is not part of the program, and is
given.

## Main definitions

* `Blueprint.Format`: the two formats.
* `Blueprint.TomlReader`: what reads TOML.
* `Blueprint.read`: the blueprint of a document.
* `Blueprint.ofFile`: the blueprint of a file, whose format shows in its name.
-/
namespace Imagewright.Blueprint

inductive Format where
  | toml
  | json
deriving DecidableEq, Repr

namespace Format

def ofName? (name : String) : Option Format :=
  if name == "toml" then some .toml else if name == "json" then some .json else none

def title : Format → String
  | .toml => "TOML"
  | .json => "JSON"

end Format

/-- Why a text in TOML is not read. -/
inductive TomlError where
  | malformed
  /-- The reader itself broke. -/
  | broken
deriving DecidableEq, Repr

/-- What reads a text in TOML. -/
abbrev TomlReader := String → Except TomlError Value

/-- Why a document cannot be loaded. -/
inductive LoadError where
  | unknownFormat (name : String)
  | noFile (path : String)
  | malformed (format : Format)
  /-- The reader of TOML broke. -/
  | broken
  /-- The document goes beyond a limit of the reader. -/
  | unread (e : Json.ReadError)
  | nameTooLong (path : String)
  | invalid (e : Error)

def LoadError.message : LoadError → String
  | .unknownFormat name => s!"Unknown blueprint format '{name}', expected one of ('toml', 'json')"
  | .noFile path => "Blueprint file not found: " ++ path
  | .malformed format => s!"Invalid {format.title} blueprint: <syntax error>"
  | .broken => "<reader error>"
  | .unread e => e.message
  | .nameTooLong path => FileName.tooLongMessage path
  | .invalid e => e.message

def readValue (toml : TomlReader) (format : Format) (content : String) : Except LoadError Value :=
  match format with
  | .toml => match toml content with
    | .ok v => .ok v
    | .error .malformed => .error (.malformed .toml)
    | .error .broken => .error .broken
  | .json => match Json.read content with
    | .ok v => .ok v
    | .error .malformed => .error (.malformed .json)
    | .error e => .error (.unread e)

/-- The blueprint of a document in a format that is given by name. -/
def read (toml : TomlReader) (content : String) (format : String) :
    Except LoadError Blueprint := do
  match Format.ofName? format with
  | none => throw (.unknownFormat format)
  | some format => (decode (← readValue toml format content)).mapError .invalid

/-- What follows the last point of a file name. A name that starts or ends with it has none. -/
def suffix (name : String) : String :=
  let cs := name.toList
  let extension := cs.reverse.takeWhile (· != '.')
  let stem := cs.length - extension.length
  if extension.isEmpty || stem < 2 then "" else String.ofList extension.reverse

/-- The format of a file: JSON if its name says so, in any mix of cases, else TOML. -/
def formatOfFile (name : String) : Format :=
  if Text.lower (suffix name) == "json" then .json else .toml

/-- There is no looking for a file whose name is too long, nor for one in a directory whose name is.
Behind a directory that is not there nothing is looked for. -/
def isUnfindable (name : String) : Bool :=
  FileName.isWritable name && ((FileName.parts name).find? (· != "..")).any FileName.isTooLong

/-- The blueprint of the file `name` in the directory `dir`, where `content` is its content if it is
there. -/
def ofFile (toml : TomlReader) (dir name : String) (content : Option String) :
    Except LoadError Blueprint := do
  let path := FileName.join dir name
  match content with
  | none => if isUnfindable name then throw (.nameTooLong path) else throw (.noFile path)
  | some content =>
    (decode (← readValue toml (formatOfFile name) (Text.unifyLineEnds content))).mapError .invalid

end Imagewright.Blueprint
