import Imagewright.Disk.Plan
import Imagewright.Text.Numeral
import Imagewright.Text.Template
import Imagewright.Value.Basic

/-!
# Errors of manifests

## Main definitions

* `Manifest.AssemblyError`: why the pipelines of a manifest cannot be assembled.
* `Manifest.BuildError`: why there is no manifest for a valid request.
-/
namespace Imagewright.Manifest

/-- Why the pipelines of a manifest cannot be assembled. -/
inductive AssemblyError where
  | wrongType
  /-- The mode of a directory is no octal number. -/
  | mode (e : Text.NumeralError)
  /-- The default ref of the image type cannot be filled in. -/
  | ref (e : Text.TemplateError)
deriving DecidableEq, Repr

def AssemblyError.message : AssemblyError → String
  | .wrongType => "<type error>"
  | .mode e => e.message
  | .ref e => e.message

instance : MonadLift (Except Value.Mismatch) (Except AssemblyError) :=
  ⟨Except.mapError fun _ => .wrongType⟩

instance : MonadLift (Except Text.NumeralError) (Except AssemblyError) := ⟨Except.mapError .mode⟩

instance : MonadLift (Except Text.TemplateError) (Except AssemblyError) := ⟨Except.mapError .ref⟩

/-- Why there is no manifest for a valid request. -/
inductive BuildError where
  | disk (e : Disk.PlanError)
  | pipelines (e : AssemblyError)
deriving DecidableEq, Repr

def BuildError.message : BuildError → String
  | .disk e => e.message
  | .pipelines e => e.message

end Imagewright.Manifest
