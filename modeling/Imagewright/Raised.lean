/-!
# Errors as they are raised

An error of the program has a place for the tag of the request that it ends. What raises the error
fills the tag in if it knows the request, and else leaves it empty; what passes the error on may
fill it in later. Errors of values that are not of their type have no such place.

## Main definitions

* `Raised`: an error with its tag, if it has a place for one.
* `Raised.tagged`, `Raised.plain`: an error with such a place and without one.
* `Raised.retag`: fills a tag in.
* `Raised.untagged`: a computation whose tags nobody looks at.
-/
namespace Imagewright

/-- An error with its tag, if it has a place for one. -/
structure Raised (ε : Type) where
  error : ε
  tag : Option String
deriving DecidableEq, Repr

namespace Raised

variable {ε δ α : Type}

/-- An error with a place for a tag, which is empty where the request is not known. -/
def tagged (e : ε) (id : String := "") : Raised ε := ⟨e, some id⟩

/-- An error without a place for a tag. -/
def plain (e : ε) : Raised ε := ⟨e, none⟩

/-- An error that is told as another one. -/
def map (f : ε → δ) (r : Raised ε) : Raised δ := ⟨f r.error, r.tag⟩

/-- Fills a tag in, where there is a place for it. -/
def retag (id : String) (r : Raised ε) : Raised ε := { r with tag := r.tag.map fun _ => id }

/-- A computation whose tags nobody looks at. -/
def untagged (x : Except (Raised ε) α) : Except ε α := x.mapError (·.error)

end Raised
end Imagewright
