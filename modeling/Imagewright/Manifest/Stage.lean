import Imagewright.Manifest.Entries
import Imagewright.Packages.Spec

/-!
# Stages

A stage is one step in the building of a tree. It has options, takes inputs from other pipelines or
from the sources of the manifest, and may work on devices and mounts.

## Main definitions

* `Manifest.Stage`: a stage.
* `Manifest.Stage.withPackages`: an install stage with the packages that it installs.
* `Manifest.Stage.render`: the stage as it is written into the manifest.
-/
namespace Imagewright.Manifest

/-- A package of the sources that an install stage takes. -/
structure PackageReference where
  checksum : String
  checkGpg : Bool
deriving DecidableEq, Repr

def PackageReference.of (p : PackageSpec) : PackageReference := ⟨p.checksum, p.checkGpg.truthy⟩

/-- A reference as it is written. The mark for the signature is there only if it is to be checked.
-/
def PackageReference.render (r : PackageReference) : Value :=
  .obj ([("id", .str r.checksum)] ++
    if r.checkGpg then [("options", .obj [("metadata", .obj [("rpm.check_gpg", .bool true)])])]
    else [])

/-- What a stage takes from pipelines and from the sources. -/
inductive Input where
  | tree (pipeline : String)
  | file (pipeline filename : String)
  | sourceCommit (ref : String)
  | pipelineCommit (pipeline ref : String)
  | packages (references : List PackageReference)
  | other (v : Value)

namespace Input

def pipelineName (pipeline : String) : String := "name:" ++ pipeline

/-- The pipeline that an input comes from, if it comes from one. -/
def pipeline? : Input → Option String
  | .tree pipeline | .file pipeline _ | .pipelineCommit pipeline _ => some pipeline
  | .sourceCommit _ | .packages _ | .other _ => none

/-- An input of a kind, with its references, from a pipeline or from the sources. -/
def entry (kind origin : String) (references : Value) : Value :=
  .obj [
    ("type", .str ("org.osbuild." ++ kind)),
    ("origin", .str ("org.osbuild." ++ origin)),
    ("references", references)]

def render : Input → Value
  | .tree pipeline => entry "tree" "pipeline" (Value.texts [pipelineName pipeline])
  | .file pipeline filename =>
    entry "files" "pipeline" (.obj [(pipelineName pipeline, .obj [("file", .str filename)])])
  | .sourceCommit ref => entry "ostree" "source" (.obj [(ref, .obj [("ref", .str ref)])])
  | .pipelineCommit pipeline ref =>
    entry "ostree" "pipeline" (.obj [(pipelineName pipeline, .obj [("ref", .str ref)])])
  | .packages references =>
    entry "files" "source" (.list (references.map PackageReference.render))
  | .other v => v

end Input

/-- What a stage works on. Sizes and places are in sectors. -/
inductive Device where
  /-- A whole image file of a size. -/
  | image (filename : Value) (size : Int)
  | range (filename : Value) (start size : Int)
  | other (v : Value)

namespace Device

def loopback (options : List (String × Value)) : Value :=
  .obj [("type", "org.osbuild.loopback"), ("options", .obj options)]

/-- A device as it is written. A whole image file is locked. -/
def render : Device → Value
  | .image filename size =>
    loopback [("filename", filename), ("size", .int size), ("lock", .bool true)]
  | .range filename start size =>
    loopback [("filename", filename), ("start", .int start), ("size", .int size)]
  | .other v => v

end Device

structure FilesystemMount where
  name : String
  type : String
  source : String
  target : Value
deriving Repr

def FilesystemMount.length (m : FilesystemMount) : Nat := m.target.size?.getD 0

inductive Mount where
  | filesystem (m : FilesystemMount)
  | other (v : Value)

def Mount.render : Mount → Value
  | .filesystem m =>
    .obj [
      ("name", .str m.name),
      ("type", .str ("org.osbuild." ++ m.type)),
      ("source", .str m.source),
      ("target", m.target)]
  | .other v => v

/-- One step in the building of a tree. -/
structure Stage where
  type : String
  options : List (String × Value) := []
  /-- Options whose keys are values. -/
  keyed : List (String × Entries) := []
  inputs : List (String × Input) := []
  devices : List (String × Device) := []
  mounts : List Mount := []

namespace Stage

def installType : String := "org.osbuild.rpm"

def installs (s : Stage) : Bool := s.type == installType

/-- The stage with the packages that it installs. A stage that installs none stays as it is. -/
def withPackages (s : Stage) (specs : List PackageSpec) : Stage :=
  if s.installs then
    { s with inputs := [("packages", .packages (specs.map PackageReference.of))] }
  else s

/-- A section of a stage, unless it is empty. -/
def section_ (key : String) (fields : List (String × Value)) : List (String × Value) :=
  if fields.isEmpty then [] else [(key, .obj fields)]

def jsonNullName : String := "null"

/-- The stage as it is written. Empty sections are left out. -/
def render (s : Stage) (nullName : String := jsonNullName) : Value :=
  .obj (
    [("type", .str s.type)] ++
    section_ "inputs" (s.inputs.map fun i => (i.1, i.2.render)) ++
    section_ "options" (s.options ++ s.keyed.map fun e => (e.1, e.2.render nullName)) ++
    section_ "devices" (s.devices.map fun d => (d.1, d.2.render)) ++
    if s.mounts.isEmpty then [] else [("mounts", .list (s.mounts.map Mount.render))])

end Stage
end Imagewright.Manifest
