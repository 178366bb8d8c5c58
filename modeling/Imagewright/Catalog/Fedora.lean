import Imagewright.Catalog.Fedora.ImageTypes
import Imagewright.Catalog.Fedora.Tables

/-!
# Fedora

The releases of Fedora with their architectures and image types.

## Main definitions

* `Fedora.registry`: the registry of all releases.
-/
namespace Imagewright.Catalog.Fedora

def platforms : List Platform := [
  ⟨"aarch64", false, true, []⟩,
  ⟨"ppc64le", true, false, ["grub2-ppc64le", "grub2-ppc64le-modules"]⟩,
  ⟨"s390x", true, false, ["s390utils-base"]⟩,
  ⟨"x86_64", true, true, ["grub2-pc"]⟩]

/-- The releases in the order in which they are added. -/
def releasevers : List String := ["37", "38", "39", "40"]

def release (releasever : String) : Release where
  name := "fedora-" ++ releasever
  product := "Fedora"
  releasever := releasever
  modulePlatformId := "platform:f" ++ releasever
  runner := "org.osbuild.fedora" ++ releasever
  mountpointPolicy := .standard
  buildPackageSet := buildPackageSet

/-- An image type with the partition table of its architecture, if its images have partitions. -/
def entry (p : Platform) (t : ImageType) : Except BuildError Entry :=
  if t.family.partitioned then
    match defaultTable? p.name with
    | some table => .ok ⟨t, some table⟩
    | none => .error (.noDefaultTable p.name)
  else .ok ⟨t, none⟩

/-- An architecture of a release, with the image types that are built for it. -/
def architecture (number : Int) (p : Platform) : Except BuildError Architecture :=
  (imageTypes.filter (·.availableFor number p.name)).foldlM
    (fun a t => do a.add (← entry p t)) ⟨p, [], []⟩

def distribution (releasever : String) : Except BuildError Distribution := do
  let r := release releasever
  let number ← r.number.mapError .releaseNumber
  platforms.foldlM (fun d p => do d.add (← architecture number p)) ⟨r, []⟩

/-- The registry of all releases, or why it cannot be built. -/
def build : Except BuildError Registry := do
  Registry.ofDistributions (← releasevers.mapM distribution)

def registry : Registry :=
  match build with
  | .ok r => r
  | .error _ => {}

end Imagewright.Catalog.Fedora
