import Imagewright.Catalog.Target

/-!
# Listings of the catalog

## Main definitions

* `Catalog.Registry.releases`, `Catalog.Registry.architectures`, `Catalog.Registry.targets`: what is
  listed.
* `Catalog.Registry.listReleases`, `Catalog.Registry.listArchitectures`,
  `Catalog.Registry.listTargets`: the listings as they are written, with the tag of the request.
-/
namespace Imagewright.Catalog

def Release.listing (r : Release) : Value :=
  .obj [
    ("name", .str r.name),
    ("product", .str r.product),
    ("releasever", .str r.releasever),
    ("module_platform_id", .str r.modulePlatformId)]

def Target.listing (t : Target) : Value :=
  .obj [
    ("name", .str t.name),
    ("aliases", Value.texts t.imageType.aliases),
    ("filename", .str t.imageType.filename),
    ("mime_type", .str t.imageType.mimeType),
    ("boot_mode", .str t.bootMode.name),
    ("default_size", .int (t.size 0)),
    ("rpm_ostree", .bool t.family.rpmOstree),
    ("boot_iso", .bool t.family.bootIso)]

namespace Registry

/-- The releases of all distributions, by name. -/
def releases (r : Registry) : List Release :=
  r.distributionNames.filterMap fun name => (r.distributions.get? name).map (·.release)

def architectures (r : Registry) (distribution : String) : Except LookupError (List String) := do
  return (← r.distribution distribution).archNames

/-- The image types of an architecture, by name. -/
def targets (r : Registry) (distribution arch : String) : Except LookupError (List Target) := do
  let d ← r.distribution distribution
  let a ← d.get arch
  a.typeNames.mapM fun name => do
    let e ← a.get name
    return ⟨d.release, a.platform, e.imageType, e.table⟩

def listReleases (r : Registry) (tag : String) : Value :=
  .obj [
    ("correlation_id", .str tag),
    ("distributions", .list (r.releases.map (·.listing)))]

def listArchitectures (r : Registry) (tag distribution : String) : Except LookupError Value := do
  return .obj [
    ("correlation_id", .str tag),
    ("distribution", .str distribution),
    ("architectures", Value.texts (← r.architectures distribution))]

def listTargets (r : Registry) (tag distribution arch : String) : Except LookupError Value := do
  let targets ← r.targets distribution arch
  return .obj [
    ("correlation_id", .str tag),
    ("distribution", .str distribution),
    ("architecture", .str arch),
    ("image_types", .list (targets.map (·.listing)))]

end Registry
end Imagewright.Catalog
