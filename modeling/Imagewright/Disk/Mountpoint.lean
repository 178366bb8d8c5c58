import Imagewright.Blueprint.Customizations
import Imagewright.Json.Printer
import Imagewright.Text.Pieces

/-!
# Mountpoints

Which paths may be mountpoints of their own.

## Main definitions

* `Disk.isClean`: an absolute path in normal form.
* `Disk.MountpointPolicy`: the clean paths that may be asked for.
* `Disk.checkMountpoints`: every path of a list is clean and may be asked for.
-/
namespace Imagewright.Disk

/-- The segments of an absolute path, without those that lead nowhere: an empty one or a dot stays,
two dots go back by one. -/
def resolve (segments : List (List Char)) : List (List Char) :=
  segments.foldl (fun path s =>
    if s == [] || s == ['.'] then path
    else if s == ['.', '.'] then path.dropLast
    else path ++ [s]) []

def hasDoubleSlash : List Char → Bool
  | '/' :: '/' :: _ => true
  | [] => false
  | _ :: rest => hasDoubleSlash rest

/-- A path is absolute and in normal form: without doubled slashes, a slash at its end or segments
that lead nowhere. -/
def isClean (path : String) : Bool :=
  match path.toList with
  | '/' :: rest =>
    !hasDoubleSlash ('/' :: rest) &&
      List.intercalate ['/'] (resolve (Text.pieces '/' rest)) == rest
  | _ => false

def isUnder (path above : String) : Bool :=
  path == above || (above.toList ++ ['/']).isPrefixOf path.toList

/-- The mountpoints that a distribution accepts. -/
structure MountpointPolicy where
  /-- Paths that are allowed as they are. -/
  exact : List String
  /-- Paths that are allowed with everything below. -/
  prefixes : List String
  denied : List String := []

namespace MountpointPolicy

/-- A clean path may be a mountpoint. -/
def allows (policy : MountpointPolicy) (path : String) : Bool :=
  if policy.denied.any (isUnder path) then false
  else policy.exact.contains path || policy.prefixes.any (isUnder path)

def standard : MountpointPolicy where
  exact := ["/", "/boot"]
  prefixes := ["/var", "/opt", "/srv", "/usr", "/app", "/data", "/home", "/tmp"]
  denied := ["/var/run", "/var/lock"]

end MountpointPolicy

/-- Why mountpoints are rejected. -/
inductive MountpointError where
  /-- A mountpoint is no text. -/
  | wrongType
  /-- Paths that are not clean. -/
  | dirty (paths : List String)
  | unsupported (paths : List String)
deriving DecidableEq, Repr

def quotePaths (paths : List String) : String :=
  "[" ++ String.intercalate " " (paths.map Json.quote) ++ "]"

def MountpointError.message : MountpointError → String
  | .wrongType => "<type error>"
  | .dirty paths | .unsupported paths =>
    "The following custom mountpoints are not supported " ++ quotePaths paths

/-- The texts of a list without the later ones of equal texts. `seen` are the texts before it. -/
def distinctFrom (seen : List String) : List String → List String
  | [] => []
  | s :: rest =>
    if seen.contains s then distinctFrom seen rest else s :: distinctFrom (s :: seen) rest

/-- Each text of a list once, in the order of their first places. -/
def distinct (texts : List String) : List String := distinctFrom [] texts

/-- Checks paths against a policy: no path is dirty, and then none is outside the policy. -/
def checkPaths (policy : MountpointPolicy) (paths : List String) : Except MountpointError Unit :=
  let dirty := distinct (paths.filter (!isClean ·))
  if !dirty.isEmpty then .error (.dirty dirty)
  else
    let unsupported := distinct (paths.filter (!policy.allows ·))
    if !unsupported.isEmpty then .error (.unsupported unsupported) else .ok ()

/-- A mountpoint that is a text, with its least size. -/
structure SizedPath where
  path : String
  minSize : Nat
deriving DecidableEq, Repr

def sizedPath (r : Blueprint.FilesystemRequest) : Except MountpointError SizedPath :=
  match r.mountpoint with
  | .str path => .ok ⟨path, r.minSize⟩
  | _ => .error .wrongType

/-- The requests of a blueprint, checked against a policy. -/
def checkMountpoints (policy : MountpointPolicy) (requests : List Blueprint.FilesystemRequest) :
    Except MountpointError (List SizedPath) := do
  let sized ← requests.mapM sizedPath
  checkPaths policy (sized.map (·.path))
  return sized

end Imagewright.Disk
