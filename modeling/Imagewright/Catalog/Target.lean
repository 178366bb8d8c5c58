import Imagewright.Blueprint.Basic
import Imagewright.Catalog.Registry
import Imagewright.Text.Template

/-!
# Properties of image types

What an image type comes to on its architecture and release.

## Main definitions

* `Catalog.Target.bootMode`, `Catalog.Target.size`, `Catalog.Target.ostreeRef`,
  `Catalog.Target.kernelOptions`: settings of an image.
* `Catalog.Target.buildPackages`, `Catalog.Target.payload`: its packages.
-/
namespace Imagewright.Catalog.Target

def name (t : Target) : String := t.imageType.name

def family (t : Target) : Family := t.imageType.family

def arch (t : Target) : String := t.platform.name

/-- The boot mode, reduced to what the architecture supports. -/
def bootMode (t : Target) : BootMode :=
  t.imageType.bootMode.reduce t.platform.legacyBoot t.platform.uefiBoot

/-- The size of an image for a size that is asked for. Zero asks for the default size. -/
def size (t : Target) (requested : Int) : Int :=
  let size := if requested == 0 then t.imageType.defaultSize else requested
  if t.imageType.wholeMebibytes && size % Disk.mib != 0 then (size / Disk.mib + 1) * Disk.mib
  else size

/-- The default ref of the image type, empty if it has none. -/
def ostreeRef (t : Target) : Except Text.TemplateError String :=
  if t.imageType.ostreeRef == "" then .ok ""
  else
    Text.fillTemplate [("releasever", t.release.releasever), ("arch", t.arch)] t.imageType.ostreeRef

/-- The kernel command line: the options of the image type, those of the blueprint and the one for
FIPS. -/
def kernelOptions (t : Target) (b : Blueprint) : Except Value.Mismatch String := do
  let options : List Value :=
    [.str t.imageType.kernelOptions, b.settings.kernelAppend] ++
      if b.settings.fips.truthy then [.str "fips=1"] else []
  let texts ← (options.filter Value.truthy).mapM Value.asText
  return String.intercalate " " texts

def buildPackages (t : Target) : PackageSet := t.release.buildPackageSet t.platform t.family

def payload (t : Target) : List (String × PackageSet) :=
  t.imageType.packageSets.map fun e => (e.1, e.2 t.arch t.release.releasever)

/-- The image type with its distribution and architecture, as it is shown. -/
def title (t : Target) : String := s!"ImageType({t.release.name}/{t.arch}/{t.name})"

end Imagewright.Catalog.Target
