import Imagewright.Catalog.Target
import Imagewright.Manifest.Basic
import Imagewright.Manifest.Error
import Imagewright.Packages.Chains
import Imagewright.Request.Options

/-!
# What a manifest is assembled from

## Main definitions

* `Manifest.Context`: the request and what was worked out from it.
* `Manifest.packageChains`: the package sets of all pipelines.
-/
namespace Imagewright.Manifest

open Catalog (Target)
open Disk (PartitionTable)
open Request (Options OstreeOptions)

def buildName : String := "build"

/-- A request with what was worked out from it. -/
structure Context where
  target : Target
  blueprint : Blueprint
  options : Options
  repositories : List Repository
  /-- The package sets of the pipelines, with their repositories. -/
  chains : PackageSetChains
  /-- The partition table of the image, if it has one. -/
  table : Option PartitionTable

/-- The package sets of all pipelines: those of the build root, those of the image type, and one
with the packages of the blueprint. Each has the repositories that serve its pipeline. -/
def packageChains (t : Target) (b : Blueprint) (repositories : List Repository) :
    PackageSetChains :=
  let chains := t.payload.foldl (fun chains e => chains.add e.1 e.2)
    (PackageSetChains.add {} buildName t.buildPackages)
  let chains := match t.family.blueprintPipeline? with
    | some pipeline => chains.add pipeline { install := b.specs }
    | none => chains
  chains.bind repositories

namespace Context

def settings (c : Context) : Blueprint.Customizations := c.blueprint.settings

def arch (c : Context) : String := c.target.arch

def filename (c : Context) : String := c.target.imageType.filename

def kernelOptions (c : Context) : Except AssemblyError String := do
  return ← c.target.kernelOptions c.blueprint

def repositoriesFor (c : Context) (pipeline : String) : List Repository :=
  c.repositories.filter (·.appliesTo pipeline)

/-- The OSTree options, which an image from a commit needs. -/
def ostree (c : Context) : Except AssemblyError OstreeOptions :=
  match c.options.ostree with
  | some o => .ok o
  | none => .error .wrongType

/-- The partition table, which a disk image needs. -/
def diskTable (c : Context) : Except AssemblyError PartitionTable :=
  match c.table with
  | some t => .ok t
  | none => .error .wrongType

/-- The ref of the commit: the one that is asked for, or that of the image type. -/
def ostreeRef (c : Context) : Except AssemblyError String :=
  match c.options.ostree.filter (·.ref != "") with
  | some o => .ok o.ref
  | none => do return ← c.target.ostreeRef

def commitSource (c : Context) : Except AssemblyError OstreeSource := do
  let o ← c.ostree
  return { url := o.url, ref := ← c.ostreeRef, contentUrl := o.contentUrl }

def isoLabel (c : Context) : String :=
  s!"{c.target.release.product}-{c.target.release.releasever}-BaseOS-{c.arch}"

/-- A pipeline without packages of its own. -/
def plainPipeline (name : String) (stages : List Stage) : Pipeline where
  name := name
  stages := stages
  build := some buildName

/-- A pipeline with the package sets of its name. -/
def pipeline (c : Context) (name : String) (stages : List Stage) : Pipeline :=
  { plainPipeline name stages with chain := c.chains.chain name }

end Context
end Imagewright.Manifest
