import Imagewright.Assoc
import Imagewright.Catalog.ImageType
import Imagewright.Disk.Mountpoint
import Imagewright.Disk.Partition
import Imagewright.Text.Numeral
import Imagewright.Text.Sorted

/-!
# The registry of image types

Distributions have architectures, and architectures have image types, which go by a name and by
aliases. An index over all of them answers most look-ups; the walk down the tree finds out what is
wrong with the others.

## Main definitions

* `Catalog.Architecture.add`, `Catalog.Distribution.add`, `Catalog.Registry.ofDistributions`:
  building the registry.
* `Catalog.Registry.walk`: looks an image type up step by step.
* `Catalog.Registry.get`: looks it up in the index first.
* `Catalog.Target`: an image type together with where it was found.
-/
namespace Imagewright.Catalog

open Disk (MountpointPolicy PartitionTable)

/-- An architecture and what it supports. -/
structure Platform where
  name : String
  legacyBoot : Bool
  uefiBoot : Bool
  buildPackages : List String := []
deriving DecidableEq, Repr

structure Release where
  name : String
  product : String
  releasever : String
  modulePlatformId : String
  runner : String
  mountpointPolicy : MountpointPolicy
  buildPackageSet : Platform → Family → PackageSet

def Release.number (r : Release) : Except Text.NumeralError Int := Text.readInt 10 r.releasever

/-- Why a registry cannot be built. -/
inductive BuildError where
  | imageType (d : ImageType.Defect)
  | releaseNumber (e : Text.NumeralError)
  | duplicateType (name arch : String)
  | duplicateAlias (shorthand arch : String)
  | duplicateArchitecture (arch distribution : String)
  | duplicateDistribution (name : String)
  | noDefaultTable (arch : String)
deriving DecidableEq, Repr

def BuildError.message : BuildError → String
  | .imageType d => d.message
  | .releaseNumber e => e.message
  | .duplicateType name arch => s!"Duplicate image type {name} for {arch}"
  | .duplicateAlias shorthand arch => s!"Duplicate image type alias {shorthand} for {arch}"
  | .duplicateArchitecture arch distribution => s!"Duplicate architecture {arch} for {distribution}"
  | .duplicateDistribution name => s!"Duplicate distribution {name}"
  | .noDefaultTable arch => s!"No default partition table for architecture {arch}"

/-- Why a look-up fails. -/
inductive LookupError where
  | distribution (name : String)
  | architecture (name distribution : String)
  | imageType (name arch : String)
deriving DecidableEq, Repr

def LookupError.message : LookupError → String
  | .distribution name => "unknown distribution: " ++ name
  | .architecture name owner => s!"invalid architecture: {name} for distribution {owner}"
  | .imageType name arch => s!"invalid image type: {name} for architecture {arch}"

/-- An image type of an architecture, with its default partition table. -/
structure Entry where
  imageType : ImageType
  table : Option PartitionTable := none

structure Architecture where
  platform : Platform
  entries : Assoc String Entry := []
  /-- The image types that further names stand for. -/
  aliases : Assoc String String := []

namespace Architecture

def addAliases (a : Architecture) (name : String) (aliases : List String) :
    Except BuildError Architecture :=
  aliases.foldlM (fun a shorthand =>
    if a.aliases.contains shorthand || a.entries.contains shorthand then
      .error (.duplicateAlias shorthand a.platform.name)
    else .ok { a with aliases := a.aliases.set shorthand name }) a

/-- Adds an image type with its further names. All names are new. -/
def add (a : Architecture) (e : Entry) : Except BuildError Architecture :=
  let name := e.imageType.name
  if a.entries.contains name then .error (.duplicateType name a.platform.name)
  else ({ a with entries := a.entries.set name e }).addAliases name e.imageType.aliases

def typeNames (a : Architecture) : List String := Text.sort a.entries.keys

def get (a : Architecture) (name : String) : Except LookupError Entry :=
  match a.entries.get? ((a.aliases.get? name).getD name) with
  | some e => .ok e
  | none => .error (.imageType name a.platform.name)

end Architecture

structure Distribution where
  release : Release
  architectures : Assoc String Architecture := []

namespace Distribution

/-- Adds an architecture. Its name is new. -/
def add (d : Distribution) (a : Architecture) : Except BuildError Distribution :=
  if d.architectures.contains a.platform.name then
    .error (.duplicateArchitecture a.platform.name d.release.name)
  else .ok { d with architectures := d.architectures.set a.platform.name a }

def archNames (d : Distribution) : List String := Text.sort d.architectures.keys

def get (d : Distribution) (name : String) : Except LookupError Architecture :=
  match d.architectures.get? name with
  | some a => .ok a
  | none => .error (.architecture name d.release.name)

end Distribution

/-- An image type together with its architecture and its release. -/
structure Target where
  release : Release
  platform : Platform
  imageType : ImageType
  table : Option PartitionTable

/-- All distributions, with an index over their image types. -/
structure Registry where
  distributions : Assoc String Distribution := []
  index : Assoc (String × String × String) Target := []

namespace Registry

def distributionNames (r : Registry) : List String := Text.sort r.distributions.keys

def distribution (r : Registry) (name : String) : Except LookupError Distribution :=
  match r.distributions.get? name with
  | some d => .ok d
  | none => .error (.distribution name)

/-- An image type, found step by step. -/
def walk (r : Registry) (distribution arch name : String) : Except LookupError Target := do
  let d ← r.distribution distribution
  let a ← d.get arch
  let e ← a.get name
  return ⟨d.release, a.platform, e.imageType, e.table⟩

/-- The index entries of an architecture: those of the names in order, then those of the further
names. -/
def indexArchitecture (d : Distribution) (arch : String) (a : Architecture) :
    List ((String × String × String) × Target) :=
  let entry := fun (name type : String) =>
    (a.get type).toOption.map fun e =>
      ((d.release.name, arch, name), Target.mk d.release a.platform e.imageType e.table)
  a.typeNames.filterMap (fun name => entry name name) ++ a.aliases.filterMap fun e => entry e.1 e.2

def indexDistribution (d : Distribution) : List ((String × String × String) × Target) :=
  d.archNames.flatMap fun arch =>
    match d.architectures.get? arch with
    | some a => indexArchitecture d arch a
    | none => []

/-- Adds a distribution with its part of the index. Its name is new. -/
def add (r : Registry) (d : Distribution) : Except BuildError Registry :=
  if r.distributions.contains d.release.name then .error (.duplicateDistribution d.release.name)
  else .ok {
    distributions := r.distributions.set d.release.name d
    index := (indexDistribution d).foldl (fun index e => index.set e.1 e.2) r.index }

def ofDistributions (distributions : List Distribution) : Except BuildError Registry :=
  distributions.foldlM add {}

/-- An image type by distribution, architecture and name or further name. -/
def get (r : Registry) (distribution arch name : String) : Except LookupError Target :=
  match r.index.get? (distribution, arch, name) with
  | some t => .ok t
  | none => r.walk distribution arch name

end Registry
end Imagewright.Catalog
