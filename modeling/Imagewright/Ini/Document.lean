import Imagewright.Assoc
import Imagewright.Text.Letters

/-!
# Settings documents

Sections with named options. Options of the default section hold in all others, and the value of an
option may refer to further options.

## Main definitions

* `Ini.Document`: sections and defaults.
* `Ini.Document.raw?`: the value of an option as it was written.
* `Ini.Document.value?`: the value with its references replaced.
* `Ini.Error`: why a document or a value is rejected.
-/
namespace Imagewright.Ini

/-- Why a document or a value is rejected. -/
inductive Error where
  | missingHeader
  | duplicateSection (name : String)
  | duplicateOption (section_ name : String)
  /-- A line is neither a header nor an option. -/
  | malformedLine
  | malformedReference
  | missingReference (name : String)
  | referencesTooDeep
deriving DecidableEq, Repr

abbrev Options := Assoc String String

structure Document where
  sections : Assoc String Options := []
  defaults : Options := []
deriving DecidableEq, Repr

/-- The name of an option; case does not count. -/
def optionName (name : String) : String := Text.lower name

/-- How deep references may lead. -/
def maxReferenceDepth : Nat := 10

/-- Replaces the references `%(name)s` in the rest of a value and `%%` by one percent sign.
`reference` gives the text of an option, and `name` is the reference being read, reversed, if one is
open. -/
def replaceFrom (reference : String → Except Error String) (out : List Char) :
    (name : Option (List Char)) → List Char → Except Error (List Char)
  | none, [] => .ok out.reverse
  | none, '%' :: '%' :: rest => replaceFrom reference ('%' :: out) none rest
  | none, '%' :: '(' :: rest => replaceFrom reference out (some []) rest
  | none, '%' :: _ => .error .malformedReference
  | none, c :: rest => replaceFrom reference (c :: out) none rest
  | some _, [] => .error .malformedReference
  | some name, ')' :: 's' :: rest => do
    if name.isEmpty then .error .malformedReference
    else
      let text ← reference (optionName (String.ofList name.reverse))
      replaceFrom reference (text.toList.reverse ++ out) none rest
  | some _, ')' :: _ => .error .malformedReference
  | some name, c :: rest => replaceFrom reference out (some (c :: name)) rest

/-- A value with its references replaced, down to `depth` levels. -/
def replace (options : String → Option String) : (depth : Nat) → String → Except Error String
  | 0, _ => .error .referencesTooDeep
  | depth + 1, value => do
    let out ← replaceFrom (fun name =>
      match options name with
      | none => .error (.missingReference name)
      | some text => if text.toList.contains '%' then replace options depth text else .ok text)
      [] none value.toList
    return String.ofList out

namespace Document

/-- The value of an option as it was written: that of the section, else that of the defaults. A
section that is not there has no options. -/
def raw? (doc : Document) (section_ name : String) : Option String :=
  match doc.sections.get? section_ with
  | none => none
  | some options =>
    match options.get? (optionName name) with
    | some value => some value
    | none => doc.defaults.get? (optionName name)

/-- The value of an option with its references replaced. -/
def value? (doc : Document) (section_ name : String) : Except Error (Option String) :=
  match doc.raw? section_ name with
  | none => .ok none
  | some value => (replace (doc.raw? section_) maxReferenceDepth value).map some

end Document
end Imagewright.Ini
