import Imagewright.Blueprint.Kind
import Imagewright.Catalog.Family
import Imagewright.Packages.PackageSet
import Imagewright.Text.Lines
import Imagewright.Text.Quoted

/-!
# Image types

## Main definitions

* `Catalog.ImageType`: what an image type of the catalog is.
* `Catalog.ImageType.ofDraft`: an image type from fields that are not checked yet.
-/
namespace Imagewright.Catalog

open Blueprint (Kind)

/-- The packages of a pipeline for an architecture and a release. -/
abbrev PackageRule := (arch releasever : String) → PackageSet

/-- The fields of an image type. -/
structure ImageType.Draft where
  name : String
  filename : String
  mimeType : String
  family : Family
  exportFormat : String
  arches : List String
  aliases : List String := []
  /-- The first release that has the type. -/
  minRelease : Int := 0
  bootMode : BootMode := .none
  /-- The size of the image if none is asked for. -/
  defaultSize : Int := 0
  /-- The kinds of customizations that a blueprint may use; all if there is no list. -/
  allowed : Option (List Kind) := none
  kernelOptions : String := ""
  enabledServices : List String := []
  packageSets : List (String × PackageRule) := []
  /-- The default ref, a template. -/
  ostreeRef : String := ""
  /-- Sizes are rounded up to whole mebibytes. -/
  wholeMebibytes : Bool := false

def isNameChar (c : Char) : Bool := ('a' ≤ c && c ≤ 'z') || ('0' ≤ c && c ≤ '9')

/-- A name of lower-case letters, digits and hyphens that does not start with a hyphen. One line
feed may follow. -/
def isTypeName (s : String) : Bool :=
  match Text.dropLineFeed s.toList with
  | [] => false
  | c :: rest => isNameChar c && rest.all fun c => isNameChar c || c == '-'

/-- What an image type of the catalog is. It has a name and an architecture, and a default size if
its images have partitions. -/
structure ImageType extends ImageType.Draft where
  name_ok : isTypeName name = true
  arches_nonempty : arches ≠ []
  size_pos : family.partitioned = true → 0 < defaultSize

namespace ImageType

/-- Why fields are no image type. -/
inductive Defect where
  | badName (name : String)
  | noArchitectures (name : String)
  | noDefaultSize (name : String)
deriving DecidableEq, Repr

def Defect.message : Defect → String
  | .badName name => "Invalid image type name: " ++ Text.quote name
  | .noArchitectures name => s!"Image type {name} has no architectures"
  | .noDefaultSize name => s!"Image type {name} requires a default size"

def ofDraft (d : Draft) : Except Defect ImageType :=
  if hn : isTypeName d.name = true then
    if ha : d.arches ≠ [] then
      if hs : d.family.partitioned = true → 0 < d.defaultSize then
        .ok { d with name_ok := hn, arches_nonempty := ha, size_pos := hs }
      else .error (.noDefaultSize d.name)
    else .error (.noArchitectures d.name)
  else .error (.badName d.name)

def availableFor (t : ImageType) (release : Int) (arch : String) : Bool :=
  t.arches.contains arch && decide (t.minRelease ≤ release)

end ImageType
end Imagewright.Catalog
