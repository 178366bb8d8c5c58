import Imagewright.Service.Numeral

/-!
# Reading the fields of a body

Readers for the types that fields have. Some readers accept other values that mean the same: numbers
and words for truth values, and texts, truth values and floats for integers.

## Main definitions

* `Service.Reader`: reads a value at a place.
* `Service.readText`, `Service.readInteger`, `Service.readBoolean`, `Service.readList`,
  `Service.readOption`: readers.
* `Service.required`, `Service.optional`: readers of the fields of a model.
-/
namespace Imagewright.Service

/-- Reads a value at a place. -/
abbrev Reader (α : Type) := Place → Value → Checked α

/-- The texts that a field may hold. -/
structure TextRule where
  minLength : Nat := 0
  maxLength : Option Nat := none
  form : String → Bool := fun _ => true

/-- A text that follows a rule. Its form counts only if its length does. -/
def readText (r : TextRule) : Reader String := fun p v =>
  match v with
  | .str s =>
    if s.length < r.minLength then .fail .tooShort p v
    else if r.maxLength.any (· < s.length) then .fail .tooLong p v
    else if r.form s then .valid s
    else .fail .malformed p v
  | _ => .fail .notText p v

def integerOf : Value → Except FaultKind Int
  | .int n => .ok n
  | .bool b => .ok (if b then 1 else 0)
  | .float x => integerOfDouble x
  | .str s => readNumeral s
  | _ => .error .notInteger

/-- An integer that is not negative. -/
def readNat : Reader Nat := fun p v =>
  match integerOf v with
  | .ok n => if n < 0 then .fail .tooSmall p v else .valid n.toNat
  | .error kind => .fail kind p v

/-- The words for what is not so. -/
def falseWords : List String := ["0", "off", "f", "false", "n", "no"]

def trueWords : List String := ["1", "on", "t", "true", "y", "yes"]

/-- The truth value that an integer means. Integers of more than 64 bits mean none at all. -/
def truthOfInt (n : Int) : Except FaultKind Bool :=
  if n < -integerBound || integerBound ≤ n then .error .notBoolean
  else if n == 0 then .ok false
  else if n == 1 then .ok true
  else .error .noTruthValue

/-- The truth value that a word means, in any mix of cases. -/
def truthOfWord (s : String) : Except FaultKind Bool :=
  let word := String.ofList (s.toList.map Text.asciiLower)
  if falseWords.contains word then .ok false
  else if trueWords.contains word then .ok true
  else .error .noTruthValue

def truthOf : Value → Except FaultKind Bool
  | .bool b => .ok b
  | .int n => truthOfInt n
  | .float x => (integerOfDouble x |>.mapError fun _ => .notBoolean).bind truthOfInt
  | .str s => truthOfWord s
  | _ => .error .notBoolean

def readBoolean : Reader Bool := fun p v =>
  match truthOf v with
  | .ok b => .valid b
  | .error kind => .fail kind p v

variable {α : Type}

def readItems (r : Reader α) (p : Place) (index : Nat) : List Value → Checked (List α)
  | [] => .valid []
  | v :: rest => List.cons <$> r (p.item index) v <*> readItems r p (index + 1) rest

def readList (r : Reader α) : Reader (List α) := fun p v =>
  match v with
  | .list items => readItems r p 0 items
  | _ => .fail .notList p v

def readTexts : Reader (List String) := readList (readText {})

/-- A value that may be null. -/
def readOption (r : Reader α) : Reader (Option α) := fun p v =>
  match v with
  | .null => .valid none
  | v => some <$> r p v

def readObject : Reader Value := fun p v =>
  match v with
  | .obj _ => .valid v
  | _ => .fail .notObject p v

abbrev Fields := List (String × Value)

def readModel (r : Place → Fields → Checked α) : Reader α := fun p v =>
  match v with
  | .obj fields => r p fields
  | _ => .fail .notModel p v

/-- A field that must be there. -/
def required (name : String) (r : Reader α) (p : Place) (fields : Fields) : Checked α :=
  match Assoc.get? fields name with
  | some v => r (p.field name) v
  | none => .fail .missing (p.field name) (.obj fields)

/-- A field that may be left out. -/
def optional (name : String) (fallback : α) (r : Reader α) (p : Place) (fields : Fields) :
    Checked α :=
  match Assoc.get? fields name with
  | some v => r (p.field name) v
  | none => .valid fallback

end Imagewright.Service
