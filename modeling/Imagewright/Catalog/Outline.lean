import Imagewright.Catalog.Target
import Imagewright.Disk.Summary

/-!
# Outlines of the catalog

All that the catalog knows of a distribution or of an image type.

## Main definitions

* `Catalog.Distribution.outline`: the outline of a distribution and its architectures.
* `Catalog.Target.outline`: the outline of an image type, for some sizes and a blueprint.
-/
namespace Imagewright.Catalog

def Architecture.nameFields (a : Architecture) : List (String × Value) := [
  ("types", Value.texts a.typeNames),
  ("aliases", .obj (a.aliases.map fun e => (e.1, .str e.2)))]

def Architecture.outline (a : Architecture) : Value :=
  .obj (a.nameFields ++ [
    ("legacy_boot", .bool a.platform.legacyBoot),
    ("uefi_boot", .bool a.platform.uefiBoot)])

/-- The outline of a distribution. Its releasever has to be a number. -/
def Distribution.outline (d : Distribution) : Except Text.NumeralError Value := do
  let number ← d.release.number
  return .obj [
    ("name", .str d.release.name),
    ("product", .str d.release.product),
    ("releasever", .str d.release.releasever),
    ("runner", .str d.release.runner),
    ("module_platform_id", .str d.release.modulePlatformId),
    ("release", .int number),
    ("arches", .obj (d.architectures.map fun e => (e.1, e.2.outline)))]

/-- Why there is no outline of an image type. -/
inductive OutlineError where
  | ref (e : Text.TemplateError)
  | kernelOptions (e : Value.Mismatch)

def Family.fields (f : Family) : List (String × Value) := [
  ("family", .str f.name),
  ("rpm_ostree", .bool f.rpmOstree),
  ("boot_iso", .bool f.bootIso),
  ("produces_commit", .bool f.producesCommit),
  ("partitioned", .bool f.partitioned)]

/-- The outline of an image type: its settings, the sizes of its images for some sizes that are
asked for, and the kernel command line for a blueprint. -/
def Target.outline (t : Target) (sizes : List Int) (b : Blueprint) : Except OutlineError Value := do
  let ref ← t.ostreeRef.mapError .ref
  let kernelOptions ← (t.kernelOptions b).mapError .kernelOptions
  let i := t.imageType
  return .obj ([
    ("repr", .str t.title),
    ("name", .str i.name),
    ("aliases", Value.texts i.aliases),
    ("filename", .str i.filename),
    ("mime_type", .str i.mimeType),
    ("export", .str i.exportFormat)] ++ i.family.fields ++ [
    ("allowed_customizations",
      (i.allowed.map fun kinds => Value.texts (kinds.map (·.name))).getD .null),
    ("boot_mode", .str t.bootMode.name),
    ("partition_table", (t.table.map (·.summary)).getD .null),
    ("sizes", .list (sizes.map fun n => .int (t.size n))),
    ("ostree_ref", .str ref),
    ("kernel_options", .str kernelOptions),
    ("enabled_services", Value.texts i.enabledServices),
    ("build_packages", t.buildPackages.summary),
    ("payload", .list (t.payload.map fun e => .list [.str e.1, e.2.summary]))])

end Imagewright.Catalog
