import Imagewright.Text.Blank

/-!
# Names

Texts that are not empty and do not consist of blanks only.

## Main definitions

* `NonBlank`: such a text.
* `NonBlank.ofString?`: the text as a name, if it is one.
-/
namespace Imagewright.Text

/-- A text with a character that is not blank. -/
structure NonBlank where
  text : String
  not_blank : isAllBlank text = false
deriving DecidableEq, Repr

/-- A text as a name, if it has a character that is not blank. -/
def NonBlank.ofString? (s : String) : Option NonBlank :=
  if h : isAllBlank s = false then some ⟨s, h⟩ else none

end Imagewright.Text
