import Imagewright.Assoc
import Imagewright.FileName
import Imagewright.Json.Reader
import Imagewright.Packages.Repository

/-!
# Stores of repositories

The repositories that are used if a request names none, by distribution and architecture.

## Main definitions

* `RepositoryFolder`: a directory with one file for each distribution.
* `RepositoryTable`: a table in memory.
-/
namespace Imagewright

/-- A directory of files, each of which maps the architectures of a distribution to repositories. -/
structure RepositoryFolder where
  path : String
  /-- The names and contents of the files, unless there is no such directory. -/
  files : Option (Assoc String String)

namespace RepositoryFolder

/-- Why a file holds no repositories. -/
inductive Error where
  | malformed (path : String)
  | notMapping (path : String)
  | badRepository (path : String) (d : Repository.Defect)
  /-- The file goes beyond a limit of the reader. -/
  | unread (e : Json.ReadError)
  | nameTooLong (path : String)
deriving DecidableEq, Repr

def Error.message : Error → String
  | .malformed path => s!"Invalid JSON in repository file {path}: <syntax error>"
  | .notMapping path => s!"Repository file {path} must map architectures to lists"
  | .badRepository path d => s!"Invalid repository in {path}: {d.message}"
  | .unread e => e.message
  | .nameTooLong path => FileName.tooLongMessage path

def isAvailable (f : RepositoryFolder) : Bool := f.files.isSome

def fileName (distribution : String) : String := FileName.last distribution ++ ".json"

/-- What the document of a file says about an architecture. Only texts have an entry. -/
def entriesAt (document arch : Value) : Except Value.Mismatch (List Value) :=
  match arch with
  | .str arch => document.itemsAt arch
  | arch => if arch.isAtomic then .ok [] else .error .wrongType

def repositoriesAt (path : String) (document arch : Value) : Except Error (List Repository) :=
  match document with
  | .obj _ =>
    (do
      let entries ← entriesAt document arch
      entries.mapM Repository.decode : Except Repository.Defect (List Repository)).mapError
        (.badRepository path)
  | _ => .error (.notMapping path)

def readFile (path content : String) (arch : Value) : Except Error (List Repository) :=
  match Json.read content with
  | .error .malformed => .error (.malformed path)
  | .error e => .error (.unread e)
  | .ok document => repositoriesAt path document arch

def pathOf (f : RepositoryFolder) (distribution : String) : String :=
  s!"{f.path}/{fileName distribution}"

/-- No file can be at the path of a distribution, which is too long. The length of the name counts
only where there is a directory in which it is looked for. -/
def isTooLong (f : RepositoryFolder) (distribution : String) : Bool :=
  let path := f.pathOf distribution
  FileName.isWritable path && (FileName.isPathTooLong path ||
    f.isAvailable && FileName.isTooLong (fileName distribution))

/-- What the file of a distribution holds, if there is one. -/
def content? (f : RepositoryFolder) (distribution : String) : Option String :=
  if FileName.isWritable (f.pathOf distribution) then
    f.files.bind (Assoc.get? · (fileName distribution))
  else none

/-- The repositories of a distribution and an architecture, none if there is no file for them. -/
def get (f : RepositoryFolder) (distribution : String) (arch : Value) :
    Except Error (List Repository) :=
  let path := f.pathOf distribution
  if f.isTooLong distribution then .error (.nameTooLong path)
  else
    match f.content? distribution with
    | none => .ok []
    | some content => readFile path content arch

end RepositoryFolder

/-- The repositories of distributions and architectures. -/
abbrev RepositoryTable := Assoc String (Assoc String (List Repository))

namespace RepositoryTable

def get (t : RepositoryTable) (distribution arch : String) : List Repository :=
  ((Assoc.get? t distribution).bind (Assoc.get? · arch)).getD []

def add (t : RepositoryTable) (distribution arch : String) (r : Repository) : RepositoryTable :=
  Assoc.set t distribution
    (Assoc.set ((Assoc.get? t distribution).getD []) arch (t.get distribution arch ++ [r]))

end RepositoryTable
end Imagewright
