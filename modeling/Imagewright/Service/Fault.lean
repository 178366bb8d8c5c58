import Imagewright.Json.Printer
import Imagewright.Text.Surrogate

/-!
# Faults of a body

What is wrong with the body of a request, and where in it.

## Main definitions

* `Service.isShowable`: the value can be shown in an answer.
* `Service.Fault`: one thing that is wrong.
* `Service.Checked`: what is read from a value, or everything that is wrong with the value.
  Combining two of them keeps the faults of both.
-/
namespace Imagewright.Service

/-! ## Values that can be shown -/

mutual

/-- A value that JSON has a form for: it holds no float that is infinite or no number, no moment,
and no text with a lone surrogate. -/
def isShowable : Value → Bool
  | .float (.finite ..) => true
  | .float _ | .moment _ => false
  | .str s => Text.isWhole s
  | .list items => areShowable items
  | .obj fields => haveShowable fields
  | _ => true

def areShowable : List Value → Bool
  | [] => true
  | v :: rest => isShowable v && areShowable rest

def haveShowable : List (String × Value) → Bool
  | [] => true
  | (key, v) :: rest => Text.isWhole key && isShowable v && haveShowable rest

end

/-! ## Faults -/

/-- One step into a value. -/
inductive Step where
  | field (name : String)
  | item (index : Nat)
deriving DecidableEq, Repr

def Step.toValue : Step → Value
  | .field name => .str name
  | .item index => .int index

/-- A place in a body: the steps that lead to it. -/
abbrev Place := List Step

/-- The place of the whole body. -/
def bodyPlace : Place := [.field "body"]

def Place.field (p : Place) (name : String) : Place := p ++ [.field name]

def Place.item (p : Place) (index : Nat) : Place := p ++ [.item index]

inductive FaultKind where
  /-- The body is no JSON. -/
  | notJson
  | missing
  | notObject
  /-- A model is no object. -/
  | notModel
  | notList
  | notText
  | tooShort
  | tooLong
  /-- A text has the wrong form. -/
  | malformed
  | notInteger
  /-- A text denotes no integer. -/
  | noNumeral
  /-- A text has too many digits. -/
  | longNumeral
  /-- A number has a fraction. -/
  | fraction
  /-- A number is infinite or no number. -/
  | notFinite
  /-- A number is too small. -/
  | tooSmall
  | notBoolean
  /-- A text or a number denotes no truth value. -/
  | noTruthValue
  /-- The fields are all right one by one, but not together. -/
  | contradiction
deriving DecidableEq, Repr

def FaultKind.name : FaultKind → String
  | .notJson => "json_invalid"
  | .missing => "missing"
  | .notObject => "dict_type"
  | .notModel => "model_attributes_type"
  | .notList => "list_type"
  | .notText => "string_type"
  | .tooShort => "string_too_short"
  | .tooLong => "string_too_long"
  | .malformed => "string_pattern_mismatch"
  | .notInteger => "int_type"
  | .noNumeral => "int_parsing"
  | .longNumeral => "int_parsing_size"
  | .fraction => "int_from_float"
  | .notFinite => "finite_number"
  | .tooSmall => "greater_than_equal"
  | .notBoolean => "bool_type"
  | .noTruthValue => "bool_parsing"
  | .contradiction => "value_error"

/-- One thing that is wrong with a body. -/
structure Fault where
  kind : FaultKind
  place : Place
  /-- What is wrong can be shown. -/
  shown : Bool := true
deriving DecidableEq, Repr

def Fault.toValue (f : Fault) : Value :=
  .obj [("type", .str f.kind.name), ("loc", .list (f.place.map Step.toValue))]

def sortFaults (faults : List Fault) : List Fault :=
  Text.sortBy (fun f => Json.compact f.toValue) faults

/-! ## Checked readings -/

/-- What is read from a value, or everything that is wrong with the value. -/
inductive Checked (α : Type) where
  | valid (a : α)
  | faulty (faults : List Fault)

namespace Checked

variable {α β : Type}

def faults : Checked α → List Fault
  | valid _ => []
  | faulty fs => fs

/-- What is read, after a function. -/
def map (f : α → β) : Checked α → Checked β
  | valid a => valid (f a)
  | faulty fs => faulty fs

/-- A function that is read, applied to what is read. The faults of both are kept. -/
def ap : Checked (α → β) → Checked α → Checked β
  | valid f, x => x.map f
  | faulty fs, x => faulty (fs ++ x.faults)

instance : Applicative Checked where
  pure := valid
  map := map
  seq f x := f.ap (x ())

def fail (kind : FaultKind) (p : Place) (v : Value) : Checked α :=
  faulty [⟨kind, p, isShowable v⟩]

/-- A reading of a value that must also pass a check, which is made only if nothing else is wrong.
-/
def ensure (x : Checked α) (ok : α → Bool) (kind : FaultKind) (p : Place) (v : Value) : Checked α :=
  match x with
  | valid a => if ok a then valid a else fail kind p v
  | faulty fs => faulty fs

@[simp] theorem faults_map (f : α → β) (x : Checked α) : (x.map f).faults = x.faults := by
  cases x <;> rfl

@[simp] theorem faults_ap (f : Checked (α → β)) (x : Checked α) :
    (f.ap x).faults = f.faults ++ x.faults := by
  cases f <;> cases x <;> simp [ap, map, faults]

end Checked
end Imagewright.Service
