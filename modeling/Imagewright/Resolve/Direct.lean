import Imagewright.Digest.Sha256
import Imagewright.Resolve.Request
import Imagewright.Text.Letters
import Imagewright.Text.Sorted

/-!
# Resolving without a solver

A resolver that gives every name exactly one package. Groups are left out, what is kept out anywhere
in the chain is not installed, and no package comes twice.

## Main definitions

* `Resolve.Direct`: the resolver and the requests that it has seen.
* `Resolve.Direct.answer`: the packages of a request.
* `Resolve.Direct.resolve`: answers a request and records it.
-/
namespace Imagewright.Resolve

/-- A resolver that gives every name exactly one package. -/
structure Direct where
  /-- The names that there are no packages for. -/
  unavailable : List Value := []
  version : Value := "1.0"
  /-- Where packages are if their repository does not say. -/
  home : String := "https://mirrors.example.com/fedora"
  requests : List Request := []

namespace Direct

/-- Why a request has no answer. -/
inductive Error where
  | wrongType
  | noPackages (names : List String)
  /-- The file name of a package cannot be written as bytes. -/
  | unencodable (halves : Text.LoneHalves)
  | emptyName
  | spec (d : PackageSpec.Defect)

def Error.message : Error → String
  | .wrongType => "<type error>"
  | .noPackages names => "no package matches: " ++ String.intercalate ", " names
  | .unencodable halves => halves.message
  | .emptyName => "string index out of range"
  | .spec d => d.message

def Error.failure : Error → Failure
  | e@(.noPackages _) => .unresolved e.message
  | e => .broken e.message

instance : MonadLift (Except Value.Mismatch) (Except Error) :=
  ⟨Except.mapError fun _ => .wrongType⟩

/-- The resolver that does not have the packages of `unavailable`. What is nothing at all stands for
no packages. Names are compared, so they are no lists and no objects. -/
def ofValues (unavailable version home : Value) : Except Value.Mismatch Direct := do
  let names ← if unavailable.truthy then unavailable.items else pure []
  if !names.all Value.isAtomic then throw .wrongType
  return { unavailable := names, version := version, home := ← home.asText }

def fileStem (r : Direct) (q : Request) (name : String) : String :=
  s!"{name}-{r.version.text}-1.fc{q.releasever.text}.{q.arch.text}"

def baseUrl (r : Direct) (repository : Option Repository) : Except Value.Mismatch String :=
  match (repository.map (·.baseurls)).getD [] with
  | url :: _ => do return Text.stripRightOf '/' (← url.asText)
  | [] => .ok (Text.stripRightOf '/' r.home)

/-- The package of a name. Its checksum is that of its file name, written as bytes. -/
def package (r : Direct) (q : Request) (repository : Option Repository) (name : String) :
    Except Error PackageSpec := do
  let base ← r.baseUrl repository
  let stem := r.fileStem q name
  match Text.loneHalves? stem, name.toList with
  | some halves, _ => throw (.unencodable halves)
  | none, [] => throw .emptyName
  | none, first :: _ =>
    (PackageSpec.ofDraft {
      name := .str name
      version := r.version
      release := .str s!"1.fc{q.releasever.text}"
      arch := q.arch
      remoteLocation := .str s!"{base}/Packages/{Text.lower first.toString}/{stem}.rpm"
      checksum := .str ("sha256:" ++ Digest.sha256Hex stem)
      checkGpg := .bool ((repository.map (·.checkGpg)).getD false)
      ignoreSsl := .bool ((repository.map (·.ignoreSsl)).getD false) }).mapError .spec

/-- A name that stands for a group of packages. -/
def isGroup (name : String) : Bool := name.toList.head? == some '@'

/-- Everything that a request installs, with the first repository of its set. -/
def offers (q : Request) : List (Value × Option Repository) :=
  q.chain.flatMap fun s => s.install.map (·, s.repositories.head?)

/-- The names of a request that there are no packages for, in order. -/
def missing (r : Direct) (q : Request) : Except Value.Mismatch (List String) := do
  let names ← (q.installs.filter (Value.isIn · r.unavailable)).mapM Value.asText
  return Text.sort names

/-- The packages of names, one after the other. Groups, names that are excluded and names that were
`seen` before have none. -/
def packages (r : Direct) (q : Request) (excluded : List Value) (seen : List String) :
    List (Value × Option Repository) → Except Error (List PackageSpec)
  | [] => .ok []
  | (v, repository) :: rest => do
    let name ← v.asText
    if isGroup name || Value.isIn name excluded || seen.contains name then
      packages r q excluded seen rest
    else
      let p ← r.package q repository name
      return p :: (← packages r q excluded (name :: seen) rest)

/-- The packages of a request. Names are compared, so they are no lists and no objects. -/
def answer (r : Direct) (q : Request) : Except Error (List PackageSpec) := do
  if !(q.excludes ++ q.installs).all Value.isAtomic then throw .wrongType
  let missing ← r.missing q
  if !missing.isEmpty then throw (.noPackages missing)
  r.packages q q.excludes [] (offers q)

def resolve (r : Direct) (q : Request) : Direct × Except Error (List PackageSpec) :=
  ({ r with requests := r.requests ++ [q] }, r.answer q)

end Direct
end Imagewright.Resolve
