import Imagewright.Ini.Reader
import Imagewright.Text.Numeral
import Imagewright.Timeout
import Imagewright.Value.Basic

/-!
# Settings

Which resolver is used, how it is run, and where the repositories of distributions are kept.

## Main definitions

* `Settings`: the settings and their defaults.
* `Settings.load`: the settings of a file.
* `Settings.loadOrDefault`: the defaults if the file is no good.
* `Settings.summary`: the settings as they are shown.
-/
namespace Imagewright

/-- The ways of resolving packages. -/
inductive Settings.Backend where
  | memory
  | helper
deriving DecidableEq, Repr

/-- The settings of the program. -/
structure Settings where
  backend : Settings.Backend := .memory
  command : String := "/usr/libexec/osbuild-depsolve-dnf"
  cacheDir : String := "/var/cache/image-composer/rpmmd"
  /-- How long resolving may take. -/
  timeout : Timeout := .standard
  repositoriesDir : String := "/etc/image-composer/repositories"
deriving DecidableEq, Repr

namespace Settings

namespace Backend

def name : Backend → String
  | .memory => "memory"
  | .helper => "dnf-json"

def all : List Backend := [.memory, .helper]

def ofName? (name : String) : Option Backend := all.find? (·.name == name)

end Backend

/-- Why a file has no settings. -/
inductive LoadError where
  | noFile (path : String)
  | document (e : Ini.Error)
  /-- The file has no sections. -/
  | empty (path : String)
  | unknownBackend (name : String)
  | timeoutNumeral (e : Text.NumeralError)
  | timeout (d : Timeout.Defect)
deriving DecidableEq, Repr

instance : MonadLift (Except Ini.Error) (Except LoadError) := ⟨Except.mapError .document⟩

/-- The text of an error. Errors of the document itself have none. -/
def LoadError.message? : LoadError → Option String
  | .noFile path => some ("Configuration file not found: " ++ path)
  | .document _ => none
  | .empty path => some ("Empty configuration file: " ++ path)
  | .unknownBackend name => some (s!"Unknown resolver backend '{name}', expected one of " ++
      String.intercalate ", " (Backend.all.map Backend.name))
  | .timeoutNumeral e => some e.message
  | .timeout d => some d.message

/-- An option of a document, or what holds without it. -/
def optionOf (doc : Ini.Document) (section_ name fallback : String) : Except Ini.Error String :=
  (doc.value? section_ name).map (·.getD fallback)

def timeoutOf (doc : Ini.Document) (fallback : Timeout) : Except LoadError Timeout := do
  match ← doc.value? "resolver" "timeout_seconds" with
  | none => return fallback
  | some numeral =>
    let x ← (Text.readDouble numeral).mapError .timeoutNumeral
    (Timeout.ofSeconds (.decimal x)).mapError .timeout

/-- The settings of a document. What it does not say stays as it is in `defaults`. -/
def ofDocument (doc : Ini.Document) (defaults : Settings := {}) : Except LoadError Settings := do
  let name ← optionOf doc "resolver" "backend" defaults.backend.name
  let some backend := Backend.ofName? name | throw (.unknownBackend name)
  let timeout ← timeoutOf doc defaults.timeout
  let command ← optionOf doc "resolver" "command" defaults.command
  let cacheDir ← optionOf doc "resolver" "cache_dir" defaults.cacheDir
  let repositoriesDir ← optionOf doc "repositories" "config_dir" defaults.repositoriesDir
  return { backend, command, cacheDir, timeout, repositoriesDir }

/-- The settings of the file at a path, where `content` is its content if it is there. -/
def load (path : String) (content : Option String) : Except LoadError Settings := do
  match content with
  | none => throw (.noFile path)
  | some content =>
    let doc ← Ini.read content
    if doc.sections.isEmpty then throw (.empty path) else ofDocument doc

/-- The settings of a file, or the defaults if it is not there or says something wrong. A file that
is no document of settings at all stays an error. -/
def loadOrDefault (path : String) (content : Option String) : Except Ini.Error Settings :=
  match load path content with
  | .ok s => .ok s
  | .error (.document e) => .error e
  | .error _ => .ok {}

def summary (s : Settings) : Value :=
  .obj [
    ("backend", .str s.backend.name),
    ("command", .str s.command),
    ("cache_dir", .str s.cacheDir),
    ("timeout_seconds", .str s.timeout.text),
    ("config_dir", .str s.repositoriesDir)]

end Settings
end Imagewright
