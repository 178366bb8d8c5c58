import Imagewright.Json.Printer

/-!
# Entries

Options of a stage whose keys come from a blueprint, where a key may be any value that can be one.

## Main definitions

* `Manifest.Entries`: fields by values.
* `Manifest.Entries.put`: gives a value an entry.
* `Manifest.Entries.render`: the entries as an object.
-/
namespace Imagewright.Manifest

/-- Entries whose keys are values. -/
abbrev Entries := List (Value × List (String × Value))

namespace Entries

def get? (entries : Entries) (key : Value) : Option (List (String × Value)) :=
  (entries.find? fun e => e.1.same key).map (·.2)

/-- Gives a key an entry: at its place if it is there, else at the end. -/
def set : Entries → Value → List (String × Value) → Entries
  | [], key, fields => [(key, fields)]
  | e :: rest, key, fields =>
    if e.1.same key then (e.1, fields) :: rest else e :: set rest key fields

/-- Gives a key an entry. Lists and objects are no keys. -/
def put (entries : Entries) (key : Value) (fields : List (String × Value)) :
    Except Value.Mismatch Entries :=
  if key.isAtomic then .ok (entries.set key fields) else .error .wrongType

/-- The name of a key. That of null is given, since writers differ in it. -/
def name? (nullName : String) : Value → Option String
  | .null => some nullName
  | key => Json.keyText? key

/-- The entries as an object. Of two entries whose keys have one name the last counts. -/
def render (nullName : String) (entries : Entries) : Value :=
  .obj (Assoc.ofList (entries.filterMap fun e => (name? nullName e.1).map (·, .obj e.2)))

end Entries
end Imagewright.Manifest
