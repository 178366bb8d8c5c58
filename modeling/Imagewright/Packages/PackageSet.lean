import Imagewright.Packages.Repository

/-!
# Package sets

What one transaction of the package manager installs and keeps out.

## Main definitions

* `PackageSet`: packages to install and to keep out, and repositories.
* `PackageSet.append`: two sets as one.
-/
namespace Imagewright

/-- Packages to install and to keep out, and the repositories they come from. -/
structure PackageSet where
  install : List Value := []
  exclude : List Value := []
  repositories : List Repository := []

namespace PackageSet

def ofNames (install : List String) (exclude : List String := []) : PackageSet where
  install := install.map .str
  exclude := exclude.map .str

/-- The repositories of a list that are not in another list. -/
def newRepositories (known repositories : List Repository) : List Repository :=
  repositories.filter fun r => !known.any r.same

/-- Two sets as one. Packages are not compared; of the second set's repositories those are added
that the first does not have. -/
def append (s t : PackageSet) : PackageSet where
  install := s.install ++ t.install
  exclude := s.exclude ++ t.exclude
  repositories := s.repositories ++ newRepositories s.repositories t.repositories

def isEmpty (s : PackageSet) : Bool := s.install.isEmpty

/-- The set as it is shown, with the identifiers of its repositories. -/
def summary (s : PackageSet) : Value :=
  .obj [
    ("include", .list s.install),
    ("exclude", .list s.exclude),
    ("repositories", Value.texts (s.repositories.map (·.id.text)))]

end PackageSet
end Imagewright
