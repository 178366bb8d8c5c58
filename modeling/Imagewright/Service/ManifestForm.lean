import Imagewright.Blueprint.Document
import Imagewright.Compose.Basic

/-!
# Forms of requests for manifests

The body of a request for a manifest, once its fields have been read. How they are read is not part
of this.

## Main definitions

* `Service.RepositoryForm`, `Service.ManifestForm`: such a body, and a repository in it.
* `Service.ManifestForm.command`: what it asks for.
-/
namespace Imagewright.Service

structure RepositoryForm where
  id : String
  baseurls : List String
  metalink : Option String
  mirrorlist : Option String
  gpgKeys : List String
  checkGpg : Bool
  checkRepoGpg : Bool
  ignoreSsl : Bool
  packageSets : List String
deriving DecidableEq, Repr

namespace RepositoryForm

/-- The value of a text that may be left out. -/
def orNull (s : Option String) : Value := (s.map Value.str).getD .null

def repository (r : RepositoryForm) : Except Repository.Defect Repository :=
  Repository.ofDraft {
    id := .str r.id
    baseurls := r.baseurls.map .str
    metalink := orNull r.metalink
    mirrorlist := orNull r.mirrorlist
    gpgKeys := r.gpgKeys.map .str
    checkGpg := r.checkGpg
    checkRepoGpg := r.checkRepoGpg
    ignoreSsl := r.ignoreSsl
    packageSets := r.packageSets.map .str }

end RepositoryForm

/-- The body of a request for a manifest. -/
structure ManifestForm where
  distribution : String
  architecture : String
  imageType : String
  /-- The blueprint as an object. -/
  blueprint : Option Value
  /-- The blueprint as a document. -/
  blueprintToml : Option String
  size : Nat
  ostree : Option Request.OstreeOptions
  repositories : List RepositoryForm
  seed : Nat

namespace ManifestForm

/-- Why a form asks for nothing that can be made. -/
inductive CommandError where
  | blueprint (e : Blueprint.LoadError)
  | repository (d : Repository.Defect)

/-- The blueprint of a form, empty if none is given. -/
def readBlueprint (toml : Blueprint.TomlReader) (f : ManifestForm) :
    Except Blueprint.LoadError Blueprint :=
  match f.blueprintToml, f.blueprint with
  | some content, _ => Blueprint.read toml content "toml"
  | none, some v => (Blueprint.decode v).mapError .invalid
  | none, none => .ok {}

/-- What a form asks for, under the tag `id`. -/
def command (toml : Blueprint.TomlReader) (f : ManifestForm) (id : CorrelationId) :
    Except CommandError Compose.Command := do
  let blueprint ← (f.readBlueprint toml).mapError .blueprint
  let repositories ← (f.repositories.mapM RepositoryForm.repository).mapError .repository
  return {
    correlationId := id
    distribution := f.distribution
    architecture := f.architecture
    imageType := f.imageType
    blueprint := blueprint
    options := ⟨f.size, f.ostree⟩
    repositories := repositories
    seed := f.seed }

end ManifestForm
end Imagewright.Service
