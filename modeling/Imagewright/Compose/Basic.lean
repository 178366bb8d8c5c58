import Imagewright.Compose.CorrelationId
import Imagewright.Compose.Resolution
import Imagewright.Manifest.Assembly
import Imagewright.Packages.RepositoryStore

/-!
# Composes

A compose makes the manifest of an image: it looks the image type up, chooses the repositories,
validates the request, builds the manifest and resolves its packages.

## Main definitions

* `Compose.Command`: what is asked for.
* `Compose.Environment`: what is there to do it with.
* `Compose.Error`: why there is no manifest.
* `Compose.Composition`: what comes of it.
* `Compose.execute`: does it.
-/
namespace Imagewright.Compose

/-- What is asked for. -/
structure Command where
  correlationId : CorrelationId
  distribution : String
  architecture : String
  imageType : String
  blueprint : Blueprint := {}
  options : Request.Options := {}
  /-- The repositories to use; those that are configured if there are none. -/
  repositories : List Repository := []
  seed : Int := 0

/-- What is there to make manifests with. -/
structure Environment where
  registry : Catalog.Registry
  /-- The repositories that are configured for a distribution and an architecture. -/
  configured : String → String → Except RepositoryFolder.Error (List Repository)
  resolver : Resolve.Request → Resolve.Outcome
  timeout : Timeout := .standard

/-- Why there is no manifest. The errors of the catalog, of a request and of resolving carry
tags. -/
inductive Error where
  | lookup (e : Raised Catalog.LookupError)
  | repositories (e : RepositoryFolder.Error)
  | request (imageType : String) (e : Raised Manifest.RequestError)
  | resolution (e : Raised ResolutionError)
  | missingSpecs (e : Manifest.MissingSpecs)

/-- The text of an error of resolving. What a resolver that broke says is told with the pipeline. -/
def ResolutionError.message : ResolutionError → String
  | .cancelled => "package resolution was cancelled"
  | .timedOut t => s!"package resolution timed out after {t.text} seconds"
  | .failed pipeline (.broken cause) =>
    s!"failed to resolve package set of pipeline {pipeline}: {cause}"
  | .failed _ f => f.message
  | .noDeadline => "int too large to convert to float"

def Error.message : Error → String
  | .lookup e => e.error.message
  | .repositories e => e.message
  | .request _ e => e.error.message
  | .resolution e => e.error.message
  | .missingSpecs e => e.message

/-- The tag that an error carries, if it has a place for one. Nobody fills in that of packages that
are missing in the end. -/
def Error.tag : Error → Option String
  | .lookup e => e.tag
  | .request _ e => e.tag
  | .resolution e => e.tag
  | .missingSpecs _ => some ""
  | .repositories _ => none

/-- What comes of a compose. -/
structure Composition where
  target : Catalog.Target
  manifest : Manifest
  resolution : Manifest.Resolution
  warnings : List Request.Warning
  /-- The manifest as it is written, with its packages. -/
  document : Value

def Composition.packageCount (c : Composition) : Nat :=
  c.resolution.foldl (fun count e => count + e.2.length) 0

/-- The repositories of the command, or those that are configured if it names none. -/
def chooseRepositories (e : Environment) (c : Command) :
    Except RepositoryFolder.Error (List Repository) :=
  if c.repositories.isEmpty then e.configured c.distribution c.architecture
  else .ok c.repositories

def callsOf (t : Catalog.Target) (m : Manifest) : Calls :=
  m.chains.map fun e => (e.1, {
    arch := .str t.arch
    releasever := .str t.release.releasever
    modulePlatformId := .str t.release.modulePlatformId
    chain := e.2 })

/-- The image type that a command asks for. The catalog knows nothing about commands, so the tag is
filled in here. -/
def lookUp (e : Environment) (c : Command) : Except Error Catalog.Target :=
  (e.registry.get c.distribution c.architecture c.imageType).mapError fun l =>
    .lookup ((Raised.tagged l).retag c.correlationId.text)

/-- Makes a manifest, where the calls of the resolver are looked at in some passes. -/
def execute (e : Environment) (c : Command) (passes : List Pass) : Except Error Composition := do
  let id := c.correlationId.text
  let target ← lookUp e c
  let repositories ← (chooseRepositories e c).mapError .repositories
  let (manifest, warnings) ← (Manifest.ofRequestFor target c.blueprint c.options repositories
    c.seed id).mapError (.request target.name)
  let resolution ← (resolve e.timeout e.resolver (callsOf target manifest) id passes).mapError
    .resolution
  let document ← (manifest.serialize resolution).mapError .missingSpecs
  return { target, manifest, resolution, warnings, document }

/-! ## Answers -/

/-- What a caller is told about a manifest. -/
structure Response where
  correlationId : String
  distribution : String
  architecture : String
  imageType : String
  filename : String
  mimeType : String
  manifest : Value
  pipelines : List String
  warnings : List String

def Composition.response (c : Command) (r : Composition) : Response where
  correlationId := c.correlationId.text
  distribution := c.distribution
  architecture := r.target.arch
  imageType := r.target.name
  filename := r.target.imageType.filename
  mimeType := r.target.imageType.mimeType
  manifest := r.document
  pipelines := r.manifest.pipelineNames
  warnings := r.warnings.map (·.message)

def Response.render (r : Response) : Value :=
  .obj [
    ("correlation_id", .str r.correlationId),
    ("distribution", .str r.distribution),
    ("architecture", .str r.architecture),
    ("image_type", .str r.imageType),
    ("filename", .str r.filename),
    ("mime_type", .str r.mimeType),
    ("manifest", r.manifest),
    ("pipelines", Value.texts r.pipelines),
    ("warnings", Value.texts r.warnings)]

end Imagewright.Compose
