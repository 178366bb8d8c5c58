import Imagewright.Number.Shortest
import Imagewright.Text.Quoted
import Imagewright.Value.Basic

/-!
# Texts of values

How a value is written into a message.

## Main definitions

* `Value.quoted`: the value as written inside a list, where texts are quoted.
* `Value.text`: the value on its own, where a text stands for itself.
-/
namespace Imagewright.Value

mutual

/-- The text of a value, with the texts in it quoted. -/
def quoted : Value → String
  | .null => "None"
  | .bool b => if b then "True" else "False"
  | .int n => toString n
  | .float x => x.text
  | .str s => Text.quote s
  | .moment m => m.quoted
  | .list items => "[" ++ String.intercalate ", " (quotedItems items) ++ "]"
  | .obj fields => "\x7b" ++ String.intercalate ", " (quotedFields fields) ++ "\x7d"

def quotedItems : List Value → List String
  | [] => []
  | v :: rest => quoted v :: quotedItems rest

def quotedFields : List (String × Value) → List String
  | [] => []
  | (key, v) :: rest => (Text.quote key ++ ": " ++ quoted v) :: quotedFields rest

end

/-- The text of a value. A text stands for itself, and moments have texts of their own. -/
def text : Value → String
  | .str s => s
  | .moment m => m.text
  | v => v.quoted

/-- The text that is quoted from a mismatch: the key that is missing, or a mark for a value of the
wrong type. -/
def Mismatch.message : Mismatch → String
  | .wrongType => "<type error>"
  | .missingKey key => Text.quote key

end Imagewright.Value
