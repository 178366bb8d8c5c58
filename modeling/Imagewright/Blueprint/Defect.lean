import Imagewright.Blueprint.Customizations
import Imagewright.Blueprint.Size

/-!
# Defects of blueprints

## Main definitions

* `Blueprint.Defect`: why a part of a blueprint cannot be decoded.
* `Blueprint.Defect.message`: its text.
-/
namespace Imagewright.Blueprint

/-- What must have a name. -/
inductive Named where
  | package
  | user
  | group
deriving DecidableEq, Repr

/-- The word for what must have a name. -/
def Named.text : Named → String
  | .package => "Package"
  | .user => "User"
  | .group => "Group"

/-- Why a part of a blueprint cannot be decoded. -/
inductive Defect where
  | mismatch (m : Value.Mismatch)
  | blankName (what : Named)
  | size (e : SizeError)
  | negativeMinimum (mountpoint : Value)
  | dataTooLong (path : Value)

def Defect.message : Defect → String
  | .mismatch m => m.message
  | .blankName what => what.text ++ " name cannot be empty"
  | .size e => e.message
  | .negativeMinimum mountpoint =>
    s!"Minimum size of mountpoint {mountpoint.text} cannot be negative"
  | .dataTooLong path =>
    s!"File {path.text} data cannot exceed {File.maxDataLength} characters"

instance : MonadLift (Except Value.Mismatch) (Except Defect) := ⟨Except.mapError .mismatch⟩

instance : MonadLift (Except SizeError) (Except Defect) := ⟨Except.mapError .size⟩

def decodeName (what : Named) (v : Value) : Except Defect Text.NonBlank :=
  match v with
  | .str s =>
    match Text.NonBlank.ofString? s with
    | some name => .ok name
    | none => .error (.blankName what)
  | v => .error (if v.truthy then .mismatch .wrongType else .blankName what)

end Imagewright.Blueprint
