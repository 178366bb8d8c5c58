import Imagewright.Text.NonBlank
import Imagewright.Value.Text

/-!
# Repositories

Where packages come from.

## Main definitions

* `Repository`: a repository with at least one source.
* `Repository.ofValues`, `Repository.decode`: a repository from values that are not checked yet.
* `Repository.appliesTo`: the repository serves a pipeline.
* `Repository.request`: the repository as the package manager is told about it.
* `Repository.outline`: the repository with all its fields.
-/
namespace Imagewright

structure Repository where
  id : Text.NonBlank
  baseurls : List Value
  metalink : Value
  mirrorlist : Value
  gpgKeys : List Value
  checkGpg : Bool
  checkRepoGpg : Bool
  ignoreSsl : Bool
  /-- The pipelines that the repository is for; all if there are none. -/
  packageSets : List Value
  has_source : (!baseurls.isEmpty || metalink.truthy || mirrorlist.truthy) = true

namespace Repository

/-- Why values are no repository. -/
inductive Defect where
  | wrongType
  | blankId
  | noSource (id : String)
deriving DecidableEq, Repr

def Defect.message : Defect → String
  | .wrongType => "<type error>"
  | .blankId => "Repository id cannot be empty"
  | .noSource id => s!"Repository {id} requires a baseurl, metalink or mirrorlist"

instance : MonadLift (Except Value.Mismatch) (Except Defect) :=
  ⟨Except.mapError fun _ => .wrongType⟩

/-- The values of a repository before they are checked. -/
structure Draft where
  id : Value
  baseurls : List Value := []
  metalink : Value := .null
  mirrorlist : Value := .null
  gpgKeys : List Value := []
  checkGpg : Bool := false
  checkRepoGpg : Bool := false
  ignoreSsl : Bool := false
  packageSets : List Value := []

def decodeId (v : Value) : Except Defect Text.NonBlank :=
  match v with
  | .str s =>
    match Text.NonBlank.ofString? s with
    | some id => .ok id
    | none => .error .blankId
  | v => .error (if v.truthy then .wrongType else .blankId)

def ofDraft (d : Draft) : Except Defect Repository := do
  let id ← decodeId d.id
  if h : (!d.baseurls.isEmpty || d.metalink.truthy || d.mirrorlist.truthy) = true then
    return { d with id := id, has_source := h }
  else throw (.noSource id.text)

/-- The field `key` of an object, or the field `other` if there is none, or `fallback`. -/
def getEither (data : Value) (key other : String) (fallback : Value) :
    Except Value.Mismatch Value := do
  data.getD key (← data.getD other fallback)

/-- A text as a list of one, and any other value as the list that it holds. What is false holds
nothing. -/
def decodeList (v : Value) : Except Value.Mismatch (List Value) :=
  match v with
  | .str s => .ok [.str s]
  | v => if v.truthy then v.items else .ok []

/-- A value, or null if it is false. -/
def orNull (v : Value) : Value := if v.truthy then v else .null

/-- The repository that a value denotes. Some of its fields go by two names. -/
def decode (data : Value) : Except Defect Repository := do
  let baseurls ← getEither data "baseurls" "baseurl" (.list [])
  let gpgKeys ← getEither data "gpgkeys" "gpgkey" (.list [])
  let id ← data.getD "id" .null
  let id ← if id.truthy then pure id else data.getD "name" ""
  let baseurls ← decodeList baseurls
  let metalink ← data.getD "metalink" .null
  let mirrorlist ← data.getD "mirrorlist" .null
  let gpgKeys ← decodeList gpgKeys
  let checkGpg ← getEither data "check_gpg" "gpgcheck" (.bool false)
  let checkRepoGpg ← getEither data "check_repo_gpg" "repo_gpgcheck" (.bool false)
  let ignoreSsl ← data.getD "ignore_ssl" (.bool false)
  let packageSets ← data.itemsAt "package_sets"
  ofDraft {
    id, baseurls, gpgKeys, packageSets
    metalink := orNull metalink
    mirrorlist := orNull mirrorlist
    checkGpg := checkGpg.truthy
    checkRepoGpg := checkRepoGpg.truthy
    ignoreSsl := ignoreSsl.truthy }

def appliesTo (r : Repository) (pipeline : String) : Bool :=
  r.packageSets.isEmpty || Value.isIn pipeline r.packageSets

/-- Equality of repositories. -/
def same (r s : Repository) : Bool :=
  r.id == s.id && Value.sameItems r.baseurls s.baseurls && r.metalink.same s.metalink &&
    r.mirrorlist.same s.mirrorlist && Value.sameItems r.gpgKeys s.gpgKeys &&
    r.checkGpg == s.checkGpg && r.checkRepoGpg == s.checkRepoGpg && r.ignoreSsl == s.ignoreSsl &&
    Value.sameItems r.packageSets s.packageSets

/-- A field with a list, unless the list is empty. -/
def listField (key : String) (items : List Value) : List (String × Value) :=
  if items.isEmpty then [] else [(key, .list items)]

/-- A field with a value, unless the value is false. -/
def optionalField (key : String) (v : Value) : List (String × Value) :=
  if v.truthy then [(key, v)] else []

/-- The repository as the package manager is told about it. -/
def request (r : Repository) : Value :=
  .obj ([("id", .str r.id.text)] ++ listField "baseurl" r.baseurls ++
    optionalField "metalink" r.metalink ++ optionalField "mirrorlist" r.mirrorlist ++
    listField "gpgkeys" r.gpgKeys ++ [
      ("gpgcheck", .bool r.checkGpg),
      ("repo_gpgcheck", .bool r.checkRepoGpg),
      ("sslverify", .bool (!r.ignoreSsl))])

def outline (r : Repository) : Value :=
  .obj [
    ("id", .str r.id.text),
    ("baseurls", .list r.baseurls),
    ("metalink", r.metalink),
    ("mirrorlist", r.mirrorlist),
    ("gpg_keys", .list r.gpgKeys),
    ("check_gpg", .bool r.checkGpg),
    ("check_repo_gpg", .bool r.checkRepoGpg),
    ("ignore_ssl", .bool r.ignoreSsl),
    ("package_sets", .list r.packageSets)]

end Repository
end Imagewright
