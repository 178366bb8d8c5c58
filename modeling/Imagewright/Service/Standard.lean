import Imagewright.Service.FormReader
import Imagewright.Service.Library
import Imagewright.Toml.Reader

/-!
# The libraries that the service runs with

## Main definitions

* `Service.presentable`: a value as it is given in an answer.
* `Service.Reply.checked`: what is sent for an answer.
* `Service.Library.standard`: the libraries that the service runs with.
-/
namespace Imagewright.Service

/-- An answer that shows what cannot be shown is an error. -/
def Reply.checked : Reply → Reply
  | document status body => if isShowable body then document status body else internalError
  | faulty faults => if faults.all (·.shown) then faulty faults else internalError

mutual

/-- A value as it is given in an answer. Floats that are infinite or no number become null, and
moments become texts. -/
def presentable : Value → Value
  | .float (.finite s m e) => .float (.finite s m e)
  | .float _ => .null
  | .moment m => .str m.written
  | .list items => .list (presentableItems items)
  | .obj fields => .obj (presentableFields fields)
  | v => v

/-- The items of a list as they are given. -/
def presentableItems : List Value → List Value
  | [] => []
  | v :: rest => presentable v :: presentableItems rest

/-- The fields of an object as they are given. -/
def presentableFields : List (String × Value) → List (String × Value)
  | [] => []
  | (key, v) :: rest => (key, presentable v) :: presentableFields rest

end

/-- The libraries that the service runs with. -/
def Library.standard : Library where
  readToml := Toml.reader
  readForm := Service.readForm
  nullName := "None"
  present := presentable
  send := Reply.checked

end Imagewright.Service
