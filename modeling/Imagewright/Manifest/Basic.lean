import Imagewright.Assoc
import Imagewright.Json.Printer
import Imagewright.Manifest.Stage
import Imagewright.Packages.PackageSet

/-!
# Manifests

What an image is built from: pipelines, each of which builds a tree, and the sources that they
fetch.

## Main definitions

* `Manifest.Pipeline`: a pipeline with its stages and its package sets.
* `Manifest`: pipelines and OSTree sources.
* `Manifest.serialize`: the manifest with the packages that were resolved.
-/
namespace Imagewright

/-- The stages that build one tree. -/
structure Manifest.Pipeline where
  name : String
  stages : List Manifest.Stage := []
  build : Option String := none
  runner : Option String := none
  /-- What the install stage installs. -/
  chain : List PackageSet := []

/-- A commit that the build fetches. -/
structure Manifest.OstreeSource where
  url : Value
  ref : String
  contentUrl : Value := ""
deriving Repr

/-- Pipelines in the order in which they run, and the commits that they fetch. -/
structure Manifest where
  pipelines : List Manifest.Pipeline
  ostreeSources : List Manifest.OstreeSource := []

namespace Manifest

/-- A field with a text, unless there is none or it is empty. -/
def textField (key : String) : Option String → List (String × Value)
  | some s => if s == "" then [] else [(key, .str s)]
  | none => []

/-- A pipeline as it is written, with the packages that its install stage installs. -/
def Pipeline.render (p : Pipeline) (specs : List PackageSpec := [])
    (nullName : String := Stage.jsonNullName) : Value :=
  .obj (
    [("name", .str p.name)] ++
    textField "build" ((p.build.filter (· != "")).map Input.pipelineName) ++
    textField "runner" p.runner ++
    [("stages", .list (p.stages.map fun s => (s.withPackages specs).render nullName))])

def OstreeSource.render (s : OstreeSource) : Value :=
  .obj [
    ("remote", .obj ([("url", s.url)] ++
      if s.contentUrl.truthy then [("contenturl", s.contentUrl)] else [])),
    ("ref", .str s.ref)]

/-- The packages of each pipeline. -/
abbrev Resolution := Assoc String (List PackageSpec)

def pipelineNames (m : Manifest) : List String := m.pipelines.map (·.name)

/-- The first pipeline of a name. -/
def pipeline? (m : Manifest) (name : String) : Option Pipeline :=
  m.pipelines.find? (·.name == name)

/-- The package sets of the pipelines that have some. -/
def chains (m : Manifest) : Assoc String (List PackageSet) :=
  Assoc.ofList ((m.pipelines.filter (!·.chain.isEmpty)).map fun p => (p.name, p.chain))

/-- The pipelines that have package sets and no packages. -/
def missing (m : Manifest) (r : Resolution) : List String :=
  (m.pipelines.filter fun p => !p.chain.isEmpty && !r.contains p.name).map (·.name)

/-- The packages of a pipeline, none if it has not been resolved. -/
def specsOf (r : Resolution) (p : Pipeline) : List PackageSpec := (r.get? p.name).getD []

def download (p : PackageSpec) : Value :=
  .obj ([("url", p.remoteLocation)] ++
    if p.ignoreSsl.truthy then [("insecure", .bool true)] else [])

/-- The downloads of all packages by their checksums. Of packages of one checksum the last counts.
-/
def downloads (m : Manifest) (r : Resolution) : Assoc String Value :=
  Assoc.ofList ((m.pipelines.flatMap (specsOf r)).map fun p => (p.checksum, download p))

def commits (m : Manifest) : Assoc String Value :=
  Assoc.ofList (m.ostreeSources.map fun s => (s.ref, s.render))

/-- A kind of sources with its items, unless there are none. -/
def sourceItems (kind : String) (items : Assoc String Value) : List (String × Value) :=
  if items.isEmpty then [] else [("org.osbuild." ++ kind, .obj [("items", .obj items)])]

def render (m : Manifest) (r : Resolution) (nullName : String := Stage.jsonNullName) : Value :=
  .obj [
    ("version", "2"),
    ("pipelines", .list (m.pipelines.map fun p => p.render (specsOf r p) nullName)),
    ("sources", .obj (sourceItems "curl" (m.downloads r) ++ sourceItems "ostree" m.commits))]

/-- Pipelines with package sets that have not been resolved. -/
structure MissingSpecs where
  pipelines : List String
deriving DecidableEq, Repr

def MissingSpecs.message (e : MissingSpecs) : String :=
  "missing package specs for pipelines: " ++ String.intercalate ", " e.pipelines

/-- The manifest with the packages that were resolved, which must be there for each pipeline with
package sets. -/
def serialize (m : Manifest) (r : Resolution) : Except MissingSpecs Value :=
  let missing := m.missing r
  if missing.isEmpty then .ok (m.render r) else .error ⟨missing⟩

/-- The serialized manifest as a text that depends on nothing but what it holds. -/
def toJson (m : Manifest) (r : Resolution) : Except MissingSpecs String :=
  (m.serialize r).map Json.indented

end Manifest
end Imagewright
