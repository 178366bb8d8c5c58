import Imagewright.Assoc
import Imagewright.Moment
import Imagewright.Number.Double

/-!
# Unchecked values

The values that documents hold before anything about their type is known. Many fields of a blueprint
are carried along unchecked, so these values reach the finished manifest.

## Main definitions

* `Value`: null, booleans, integers, floats, texts, moments, lists and objects.
* `Value.truthy`: empty and zero values are false.
* `Value.same`: equality across numeric types; the order of an object's fields does not count.
* `Value.get?`, `Value.field`: the fields of an object.
* `Value.items`: what a value holds, as a list; `Value.size?`: how much it holds.
-/
namespace Imagewright

/-- A value of a document. The fields of an object keep their order. -/
inductive Value where
  | null
  | bool (b : Bool)
  | int (n : Int)
  | float (x : Double)
  | str (s : String)
  | moment (m : Moment)
  | list (items : List Value)
  | obj (fields : List (String × Value))
deriving Inhabited, Repr

namespace Value

instance : Coe String Value := ⟨.str⟩

def texts (items : List String) : Value := .list (items.map .str)

/-- Why a value cannot be used as it is asked to. -/
inductive Mismatch where
  | wrongType
  | missingKey (key : String)
deriving DecidableEq, Repr

/-- Everything is true except null, false, zeros and what is empty. -/
def truthy : Value → Bool
  | .null => false
  | .bool b => b
  | .int n => n != 0
  | .float x => !x.isZero
  | .str s => s != ""
  | .moment _ => true
  | .list items => !items.isEmpty
  | .obj fields => !fields.isEmpty

def isNull : Value → Bool
  | .null => true
  | _ => false

/-- A value and an integer are equal numbers. Truth values count as one and zero. -/
def sameAsInt (n : Int) : Value → Bool
  | .bool b => n == (if b then 1 else 0)
  | .int m => n == m
  | .float x => x.sameInt n
  | _ => false

/-- A value and a float are equal numbers, or they are no number and come from the same place. -/
def sameAsDouble (x : Double) : Value → Bool
  | .bool b => x.sameInt (if b then 1 else 0)
  | .int m => x.sameInt m
  | .float y => x == y || x.same y
  | _ => false

mutual

/-- Equality of values. Numbers of different types are equal if they are the same number, and truth
values are the numbers one and zero. What is no number is equal only to what comes from the same
place. Objects are equal if they hold the same fields in any order. -/
def same : Value → Value → Bool
  | .null, v => v.isNull
  | .bool b, v => v.sameAsInt (if b then 1 else 0)
  | .int n, v => v.sameAsInt n
  | .float x, v => v.sameAsDouble x
  | .str s, .str t => s == t
  | .str _, _ => false
  | .moment m, .moment m' => m.same m'
  | .moment _, _ => false
  | .list items, .list others => sameItems items others
  | .list _, _ => false
  | .obj fields, .obj others => fields.length == others.length && sameFields fields others
  | .obj _, _ => false

/-- Equality of lists, item by item. -/
def sameItems : List Value → List Value → Bool
  | [], [] => true
  | v :: rest, w :: others => same v w && sameItems rest others
  | _, _ => false

/-- Every field is also one of `others`. -/
def sameFields : List (String × Value) → List (String × Value) → Bool
  | [], _ => true
  | (key, v) :: rest, others =>
    (match Assoc.get? others key with
      | some w => same v w
      | none => false) && sameFields rest others

end

/-- The field `key` of an object. There is none in any other value. -/
def get? (v : Value) (key : String) : Except Mismatch (Option Value) :=
  match v with
  | .obj fields => .ok (Assoc.get? fields key)
  | _ => .error .wrongType

/-- The field `key` of an object, or `fallback` if the object does not have it. A field that is
null is there. -/
def getD (v : Value) (key : String) (fallback : Value) : Except Mismatch Value :=
  (v.get? key).map (·.getD fallback)

/-- The field `key`, which an object must have. -/
def field (v : Value) (key : String) : Except Mismatch Value := do
  match ← v.get? key with
  | some w => .ok w
  | none => .error (.missingKey key)

/-- What a value holds: the characters of a text, the keys of an object, the items of a list. -/
def items : Value → Except Mismatch (List Value)
  | .str s => .ok (s.toList.map fun c => .str c.toString)
  | .list items => .ok items
  | .obj fields => .ok (fields.map fun f => .str f.1)
  | _ => .error .wrongType

def asText : Value → Except Mismatch String
  | .str s => .ok s
  | _ => .error .wrongType

/-- The field `key` of an object as a list of values, none if the object does not have it. -/
def itemsAt (v : Value) (key : String) : Except Mismatch (List Value) := do
  (← v.getD key (.list [])).items

/-- How much a value holds: characters, items or fields. -/
def size? : Value → Option Nat
  | .str s => some s.length
  | .list items => some items.length
  | .obj fields => some fields.length
  | _ => none

/-- A value that can be a member of a set or a key: not a list and not an object. -/
def isAtomic : Value → Bool
  | .list _ | .obj _ => false
  | _ => true

def isIn (v : Value) (items : List Value) : Bool := items.any v.same

end Value
end Imagewright
