import Imagewright.Value.Basic

/-!
# Options of a request

## Main definitions

* `Request.OstreeOptions`: where the OSTree commit of an image comes from.
* `Request.Options`: the size of an image and its OSTree options.
-/
namespace Imagewright.Request

/-- Where the OSTree commit of an image comes from. Empty texts are not given. Addresses are carried
along unchecked. -/
structure OstreeOptions where
  ref : String := ""
  /-- The parent of a new commit. -/
  parent : String := ""
  url : Value := ""
  /-- Another place for the content of the commit. -/
  contentUrl : Value := ""
deriving Repr

/-- The size of an image in bytes, zero for the default size, and its OSTree options. -/
structure Options where
  size : Nat := 0
  ostree : Option OstreeOptions := none
deriving Repr

/-- Why options are rejected. -/
inductive OptionsError where
  | negativeSize
deriving DecidableEq, Repr

def OptionsError.message : OptionsError → String
  | .negativeSize => "Image size cannot be negative"

namespace Options

/-- Options with a size that may be negative. -/
def ofInt (size : Int) (ostree : Option OstreeOptions) : Except OptionsError Options :=
  if size < 0 then .error .negativeSize else .ok ⟨size.toNat, ostree⟩

/-- The repository of the commit, empty if none is given. -/
def ostreeUrl (o : Options) : Value := (o.ostree.map (·.url)).getD ""

end Options
end Imagewright.Request
