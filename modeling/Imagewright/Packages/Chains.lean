import Imagewright.Assoc
import Imagewright.Packages.PackageSet

/-!
# Package-set chains

The package sets of each pipeline, in the order in which they are installed.

## Main definitions

* `PackageSetChains`: a chain per pipeline.
* `PackageSetChains.add`: puts a set at the end of a chain.
* `PackageSetChains.bind`: gives each set the repositories that serve its pipeline.
* `PackageSetChains.flatten`: a chain as one set.
-/
namespace Imagewright

/-- The chains of pipelines, in the order of their first sets. -/
structure PackageSetChains where
  entries : Assoc String (List PackageSet) := []

namespace PackageSetChains

/-- The chain of a pipeline, none if it has no sets. -/
def chain (c : PackageSetChains) (pipeline : String) : List PackageSet :=
  (c.entries.get? pipeline).getD []

def add (c : PackageSetChains) (pipeline : String) (s : PackageSet) : PackageSetChains :=
  ⟨c.entries.set pipeline (c.chain pipeline ++ [s])⟩

def pipelines (c : PackageSetChains) : List String := c.entries.keys

def contains (c : PackageSetChains) (pipeline : String) : Bool := c.entries.contains pipeline

def flatten (c : PackageSetChains) (pipeline : String) : PackageSet :=
  (c.chain pipeline).foldl PackageSet.append {}

/-- A set with the repositories that serve a pipeline behind its own. -/
def bindSet (repositories : List Repository) (pipeline : String) (s : PackageSet) : PackageSet :=
  { s with repositories := s.repositories ++ repositories.filter (·.appliesTo pipeline) }

/-- Gives each set the repositories that serve its pipeline, behind its own. -/
def bind (c : PackageSetChains) (repositories : List Repository) : PackageSetChains :=
  ⟨c.entries.map fun e => (e.1, e.2.map (bindSet repositories e.1))⟩

@[simp] theorem chain_add_self (c : PackageSetChains) (pipeline : String) (s : PackageSet) :
    (c.add pipeline s).chain pipeline = c.chain pipeline ++ [s] := by
  simp [chain, add]

@[simp] theorem chain_add_ne (c : PackageSetChains) {pipeline other : String} (s : PackageSet)
    (h : pipeline ≠ other) : (c.add pipeline s).chain other = c.chain other := by
  simp [chain, add, h]

end PackageSetChains
end Imagewright
