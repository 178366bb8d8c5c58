import Imagewright.Packages.PackageSet
import Imagewright.Packages.Spec

/-!
# Resolving package sets

## Main definitions

* `Resolve.Request`: a chain of package sets to resolve.
* `Resolve.Failure`: how a resolver fails.
-/
namespace Imagewright.Resolve

/-- A chain of package sets, of which each is installed on top of those before it. -/
structure Request where
  arch : Value
  releasever : Value
  modulePlatformId : Value
  chain : List PackageSet

namespace Request

def installs (q : Request) : List Value := q.chain.flatMap (·.install)

def excludes (q : Request) : List Value := q.chain.flatMap (·.exclude)

/-- The repositories of all sets, in their order. -/
def repositories (q : Request) : List Repository := q.chain.flatMap (·.repositories)

end Request

/-- How a resolver fails. -/
inductive Failure where
  | unresolved (message : String)
  /-- The resolver was stopped. -/
  | cancelled (message : String)
  /-- The resolver itself broke. -/
  | broken (message : String)
deriving DecidableEq, Repr

def Failure.message : Failure → String
  | .unresolved message | .cancelled message | .broken message => message

/-- What a resolver answers. -/
abbrev Outcome := Except Failure (List PackageSpec)

end Imagewright.Resolve
