/-!
# Families of image types

## Main definitions

* `Catalog.Family`: the shape of the pipelines of an image type.
* `Catalog.BootMode`: the firmware that an image boots with.
-/
namespace Imagewright.Catalog

/-- The shape of the pipelines of an image type. -/
inductive Family where
  | disk
  | container
  | ostreeCommit
  | ostreeContainer
  | ostreeDisk
  | imageInstaller
  | liveInstaller
  | ostreeInstaller
  | simplifiedInstaller
deriving DecidableEq, Repr

namespace Family

def all : List Family := [
  .disk, .container, .ostreeCommit, .ostreeContainer, .ostreeDisk, .imageInstaller, .liveInstaller,
  .ostreeInstaller, .simplifiedInstaller]

def name : Family → String
  | .disk => "disk"
  | .container => "container"
  | .ostreeCommit => "ostree-commit"
  | .ostreeContainer => "ostree-container"
  | .ostreeDisk => "ostree-disk"
  | .imageInstaller => "image-installer"
  | .liveInstaller => "live-installer"
  | .ostreeInstaller => "ostree-installer"
  | .simplifiedInstaller => "ostree-simplified-installer"

def ofName? (name : String) : Option Family := all.find? (·.name == name)

/-- The image carries or takes an OSTree commit. -/
def rpmOstree : Family → Bool
  | .ostreeCommit | .ostreeContainer | .ostreeDisk | .ostreeInstaller | .simplifiedInstaller => true
  | _ => false

def producesCommit : Family → Bool
  | .ostreeCommit | .ostreeContainer => true
  | _ => false

/-- The operating system of the image comes from an OSTree commit that is there already. -/
def takesCommit : Family → Bool
  | .ostreeDisk | .ostreeInstaller | .simplifiedInstaller => true
  | _ => false

def bootIso : Family → Bool
  | .imageInstaller | .liveInstaller | .ostreeInstaller | .simplifiedInstaller => true
  | _ => false

def partitioned : Family → Bool
  | .disk | .ostreeDisk | .simplifiedInstaller => true
  | _ => false

/-- The pipeline that the packages of a blueprint go to, if there is one. -/
def blueprintPipeline? : Family → Option String
  | .disk | .container | .ostreeCommit | .ostreeContainer | .imageInstaller => some "os"
  | .liveInstaller => some "anaconda-tree"
  | .ostreeDisk | .ostreeInstaller | .simplifiedInstaller => none

end Family

/-- The firmware that an image boots with. -/
inductive BootMode where
  | none
  | legacy
  | uefi
  | hybrid
deriving DecidableEq, Repr

namespace BootMode

def name : BootMode → String
  | .none => "none"
  | .legacy => "legacy"
  | .uefi => "uefi"
  | .hybrid => "hybrid"

def ofName? (name : String) : Option BootMode :=
  [BootMode.none, .legacy, .uefi, .hybrid].find? (·.name == name)

def hasUefi (m : BootMode) : Bool := m == .uefi || m == .hybrid

def hasLegacy (m : BootMode) : Bool := m == .legacy || m == .hybrid

/-- A mode reduced to what a machine supports. -/
def reduce (legacyBoot uefiBoot : Bool) : BootMode → BootMode
  | .none => .none
  | .hybrid =>
    if legacyBoot && uefiBoot then .hybrid else if uefiBoot then .uefi else .legacy
  | .uefi => if uefiBoot then .uefi else .legacy
  | .legacy => if legacyBoot then .legacy else .uefi

end BootMode
end Imagewright.Catalog
