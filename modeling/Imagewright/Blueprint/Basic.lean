import Imagewright.Blueprint.Defect

/-!
# Blueprints

What a user wants an image to hold.

## Main definitions

* `Blueprint.Package`: a package with an optional version.
* `Blueprint`: packages, module streams, package groups and customizations.
* `Blueprint.specs`: what the package manager is asked to install.
* `Blueprint.summary`: the blueprint as it is shown.
-/
namespace Imagewright

/-- A package by name, with a pattern for its version. -/
structure Blueprint.Package where
  name : Text.NonBlank
  version : Value := ""

/-- A description of the content of an image. -/
structure Blueprint where
  name : String := ""
  description : String := ""
  version : String := ""
  packages : List Blueprint.Package := []
  modules : List Blueprint.Package := []
  groups : List Value := []
  customizations : Option Blueprint.Customizations := none

namespace Blueprint

/-- A package of a name and a version that are not checked yet. -/
def Package.ofValues (name version : Value) : Except Defect Package :=
  (decodeName .package name).map (⟨·, version⟩)

/-- What the package manager is asked for: the name, and the version if one is given that is not a
star. -/
def Package.spec (p : Package) : String :=
  if p.version.truthy && !p.version.same "*" then s!"{p.name.text}-{p.version.text}"
  else p.name.text

/-- The customizations, none if the blueprint has no such part. -/
def settings (b : Blueprint) : Customizations := b.customizations.getD {}

/-- What the package manager is asked to install: packages, module streams, groups and the kernel,
in this order. -/
def specs (b : Blueprint) : List Value :=
  List.map Value.str (b.packages.map Package.spec ++ b.modules.map Package.spec ++
    b.groups.map fun g => "@" ++ g.text) ++
  if b.settings.kernelName.truthy then [b.settings.kernelName] else []

/-- The blueprint as it is shown, with the kinds of customizations that it uses. -/
def summary (b : Blueprint) : Value :=
  .obj [
    ("name", .str b.name),
    ("description", .str b.description),
    ("version", .str b.version),
    ("packages", Value.texts (b.packages.map Package.spec)),
    ("modules", Value.texts (b.modules.map Package.spec)),
    ("groups", .list b.groups),
    ("customizations", Value.texts (b.settings.presentKinds.map Kind.name))]

end Blueprint
end Imagewright
