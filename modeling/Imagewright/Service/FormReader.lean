import Imagewright.Service.Fields
import Imagewright.Service.ManifestForm

/-!
# Reading forms of requests for manifests

The program runs with this reader of forms.

## Main definitions

* `Service.RepositoryForm.readFields`, `Service.readOstree`: readers of the parts of a form.
* `Service.ManifestForm.read`: reads a form, or tells everything that is wrong with it.
* `Service.readForm`: the same for a body that may not be there.
-/
namespace Imagewright.Service

namespace RepositoryForm

def hasSource (r : RepositoryForm) : Bool :=
  !r.baseurls.isEmpty || r.metalink.any (· != "") || r.mirrorlist.any (· != "")

def readFields (p : Place) (fields : Fields) : Checked RepositoryForm :=
  let form := RepositoryForm.mk
    <$> required "id" (readText { minLength := 1, maxLength := some 255 }) p fields
    <*> optional "baseurls" [] readTexts p fields
    <*> optional "metalink" none (readOption (readText {})) p fields
    <*> optional "mirrorlist" none (readOption (readText {})) p fields
    <*> optional "gpg_keys" [] readTexts p fields
    <*> optional "check_gpg" false readBoolean p fields
    <*> optional "check_repo_gpg" false readBoolean p fields
    <*> optional "ignore_ssl" false readBoolean p fields
    <*> optional "package_sets" [] readTexts p fields
  form.ensure hasSource .contradiction p (.obj fields)

end RepositoryForm

def readOstree (p : Place) (fields : Fields) : Checked Request.OstreeOptions :=
  let text (name : String) (maxLength : Nat) :=
    optional name "" (readText { maxLength := some maxLength }) p fields
  Request.OstreeOptions.mk <$> text "ref" 255 <*> text "parent" 255 <*> (.str <$> text "url" 2048)
    <*> (.str <$> text "contenturl" 2048)

def isNameChar (c : Char) : Bool := Text.isAsciiAlnum c || c == '.' || c == '_' || c == '-'

/-- A name starts with an ASCII letter or digit, after which points, underscores and hyphens may
stand too. -/
def isName (s : String) : Bool :=
  match s.toList with
  | first :: rest => Text.isAsciiAlnum first && rest.all isNameChar
  | [] => false

/-- A name of at most so many characters. -/
def readName (maxLength : Nat) : Reader String :=
  readText { minLength := 1, maxLength := some maxLength, form := isName }

namespace ManifestForm

/-- A blueprint as a document has at most this many characters. -/
def maxTomlLength : Nat := 1024 * 1024

/-- The blueprint is given once at most. -/
def hasOneBlueprint (f : ManifestForm) : Bool := f.blueprint.isNone || f.blueprintToml.isNone

def readFields (p : Place) (fields : Fields) : Checked ManifestForm :=
  let form := ManifestForm.mk
    <$> required "distribution" (readName 64) p fields
    <*> required "architecture" (readName 32) p fields
    <*> required "image_type" (readName 64) p fields
    <*> optional "blueprint" none (readOption readObject) p fields
    <*> optional "blueprint_toml" none
      (readOption (readText { maxLength := some maxTomlLength })) p fields
    <*> optional "size" 0 readNat p fields
    <*> optional "ostree" none (readOption (readModel readOstree)) p fields
    <*> optional "repositories" [] (readList (readModel RepositoryForm.readFields)) p fields
    <*> optional "seed" 0 readNat p fields
  form.ensure hasOneBlueprint .contradiction p (.obj fields)

def read (v : Value) : Checked ManifestForm := readModel readFields bodyPlace v

end ManifestForm

/-- Reads a form. A body that is not there is missing. -/
def readForm : Option Value → Checked ManifestForm
  | some v => ManifestForm.read v
  | none => .fail .missing bodyPlace .null

end Imagewright.Service
