import Imagewright.Blueprint.Decode
import Imagewright.Proofs.Outcome
import Mathlib.Data.List.TakeWhile

/-!
# Faults of operations on values

An operation on a value of a document can be at fault in several ways, and a handler handles some of
them only. The ways are told apart here, and so is what each operation does for values of each type.

## Main definitions

* `Fault`: the ways in which an operation is at fault.
* `Fault.isHandled`: the faults that a handler turns into an error of the blueprint.
* `Faulting.subscript`, `getOr`, `iterate`, `length`: the operations.
* `Faulting.Tells`: a computation gives what another one gives, or has a fault that is handled and
  has the text of the other one's error.
* `Faulting.Reports`: an operation tells what a step of decoding a blueprint does.

## Main statements

* `Faulting.Tells.bind`, `Faulting.Tells.mapM`: computations tell whose steps do.
* `Faulting.tells_getOr`, `tells_iterate`: the operations tell what decoding does.
* `Faulting.reports_getOr`, `reports_subscript`, `reports_iterate`: the operations report.
-/
namespace Imagewright

/-- The ways in which an operation is at fault. -/
inductive Fault where
  /-- The value is of a type that does not have the operation. -/
  | operation
  /-- The value is of a type that does not have the method. -/
  | method
  | missingKey (key : Value)
  /-- There is no item at the position. -/
  | position (type : String)
  /-- A check rejects the value. -/
  | rejected (text : String)

namespace Fault

def text : Fault → String
  | operation | method => Value.Mismatch.wrongType.message
  | missingKey key => key.quoted
  | position type => type ++ " index out of range"
  | rejected text => text

/-- A handler knows all faults but positions that are not there. -/
def isHandled : Fault → Bool
  | position _ => false
  | _ => true

end Fault

namespace Faulting

/-! ## Operations -/

/-- A value as a position. Truth values count as one and zero. -/
def position? : Value → Option Int
  | .int n => some n
  | .bool b => some (if b then 1 else 0)
  | _ => none

/-- The item at a position, which is counted from the end if it is negative. -/
def itemAt (type : String) (items : List Value) (key : Value) : Except Fault Value :=
  match position? key with
  | none => .error .operation
  | some n =>
    let n := if n < 0 then n + items.length else n
    match if n < 0 then none else items[n.toNat]? with
    | none => .error (.position type)
    | some item => .ok item

/-- What a value holds under a key: a field, an item or a character. -/
def subscript (v key : Value) : Except Fault Value :=
  match v with
  | .obj fields =>
    match key with
    | .str name => (Assoc.get? fields name).elim (.error (.missingKey key)) .ok
    | key => .error (if key.isAtomic then .missingKey key else .operation)
  | .list items => itemAt "list" items key
  | .str s => itemAt "string" (s.toList.map fun c => .str c.toString) key
  | _ => .error .operation

/-- The method of objects that gives a field, or `fallback` if it is not there. -/
def getOr (v : Value) (key : String) (fallback : Value) : Except Fault Value :=
  match v with
  | .obj fields => .ok ((Assoc.get? fields key).getD fallback)
  | _ => .error .method

/-- A field that is there and not null is there to be subscripted. -/
theorem subscript_of_getOr {v w : Value} {key : String} (h : getOr v key .null = .ok w)
    (hw : ¬ w.isNull) : subscript v (.str key) = .ok w := by
  cases v with
  | obj fields =>
    simp only [getOr, Except.ok.injEq] at h
    simp only [subscript]
    cases hget : Assoc.get? fields key with
    | none => simp [← h, hget, Value.isNull] at hw
    | some w' => simp [← h, hget]
  | _ => cases h

/-- What a value holds, one after another. -/
def iterate : Value → Except Fault (List Value)
  | .str s => .ok (s.toList.map fun c => .str c.toString)
  | .list items => .ok items
  | .obj fields => .ok (fields.map fun f => .str f.1)
  | _ => .error .operation

def length (v : Value) : Except Fault Nat := v.size?.elim (.error .operation) .ok

/-! ## Reports -/

/-- A computation gives what another one gives, or it has a fault that is handled and has the text
of the other one's error. -/
inductive Tells {ε α : Type} (isHandled : Fault → Bool) (message : ε → String) :
    Except Fault α → Except ε α → Prop where
  | ok (a : α) : Tells isHandled message (.ok a) (.ok a)
  | error {f : Fault} {e : ε} (handled : isHandled f = true) (text : f.text = message e) :
    Tells isHandled message (.error f) (.error e)

section Tells

variable {ε α β : Type} {isHandled : Fault → Bool} {message : ε → String} {x : Except Fault α}
  {y : Except ε α}

theorem Tells.bind_of_eq {f : α → Except Fault β} {g : α → Except ε β}
    (h : Tells isHandled message x y) (hf : ∀ a, x = .ok a → Tells isHandled message (f a) (g a)) :
    Tells isHandled message (x >>= f) (y >>= g) := by
  cases h with
  | ok a => exact hf a rfl
  | error handled text => exact .error handled text

theorem Tells.bind {f : α → Except Fault β} {g : α → Except ε β} (h : Tells isHandled message x y)
    (hf : ∀ a, Tells isHandled message (f a) (g a)) :
    Tells isHandled message (x >>= f) (y >>= g) :=
  h.bind_of_eq fun a _ => hf a

theorem Tells.pure (a : α) :
    Tells isHandled message (pure a : Except Fault α) (pure a : Except ε α) := .ok a

theorem Tells.mapM {f : α → Except Fault β} {g : α → Except ε β}
    (h : ∀ a, Tells isHandled message (f a) (g a)) (xs : List α) :
    Tells isHandled message (xs.mapM f) (xs.mapM g) := by
  induction xs with
  | nil => exact .pure []
  | cons x xs ih =>
    rw [List.mapM_cons, List.mapM_cons]
    exact (h x).bind fun _ => ih.bind fun _ => .pure _

variable {blame : Value.Mismatch → ε}

theorem tells_getOr (hmethod : isHandled .method = true)
    (htext : Fault.method.text = message (blame .wrongType)) (v : Value) (key : String)
    (fallback : Value) :
    Tells isHandled message (getOr v key fallback) ((v.getD key fallback).mapError blame) := by
  cases v with
  | obj fields => exact .ok _
  | _ => exact .error hmethod htext

theorem tells_iterate (hoperation : isHandled .operation = true)
    (htext : Fault.operation.text = message (blame .wrongType)) (v : Value) :
    Tells isHandled message (iterate v) (v.items.mapError blame) := by
  cases v with
  | str | list | obj => exact .ok _
  | _ => exact .error hoperation htext

theorem tells_itemsAt (hmethod : isHandled .method = true)
    (hoperation : isHandled .operation = true)
    (htext : Fault.method.text = message (blame .wrongType)) (v : Value) (key : String) :
    Tells isHandled message (getOr v key (.list []) >>= iterate)
      ((v.itemsAt key).mapError blame) := by
  rw [Value.itemsAt, Outcome.mapError_bind]
  exact (tells_getOr hmethod htext v key _).bind fun w => tells_iterate hoperation htext w

end Tells

open Blueprint (Defect)

/-- An operation tells what a step of decoding a blueprint does. -/
abbrev Reports {α : Type} : Except Fault α → Except Defect α → Prop :=
  Tells Fault.isHandled Defect.message

section Reports

theorem reports_getOr (v : Value) (key : String) (fallback : Value) :
    Reports (getOr v key fallback) (liftM (v.getD key fallback)) :=
  tells_getOr rfl rfl v key fallback

theorem reports_subscript (v : Value) (key : String) :
    Reports (subscript v (.str key)) (liftM (v.field key)) := by
  cases v with
  | obj fields =>
    simp only [subscript, Value.field, Value.get?, Outcome.ok_bind]
    cases Assoc.get? fields key with
    | none => exact .error rfl rfl
    | some w => exact .ok w
  | _ => exact .error rfl rfl

theorem reports_iterate (v : Value) (key : String) :
    Reports (getOr v key (.list []) >>= iterate) (liftM (v.itemsAt key)) :=
  tells_itemsAt rfl rfl rfl v key

end Reports

end Faulting
end Imagewright
