import Imagewright.Text.Pattern
import Imagewright.Value.Basic

/-!
# Correlation identifiers

A caller's tag for a request. Logs, answers and errors carry it.

## Main definitions

* `CorrelationId`: such a tag.
* `CorrelationId.ofString`, `CorrelationId.decode`: the tag that a text or a value is.
-/
namespace Imagewright

def isCorrelationChar (c : Char) : Bool :=
  Text.isAsciiAlnum c || c == '.' || c == '_' || c == ':' || c == '-'

/-- The form of a tag: characters of a tag, at least one. -/
def correlationPattern : Text.Pattern := .all [.start, .many isCorrelationChar, .ending]

def isCorrelationText (s : String) : Bool := correlationPattern.accepts s

/-- A caller's tag for a request. -/
structure CorrelationId where
  text : String
  length_le : text.length ≤ 128
  well_formed : isCorrelationText text = true
deriving DecidableEq, Repr

namespace CorrelationId

/-- Tags have at most this many characters. -/
def maxLength : Nat := 128

/-- Why a value is no tag. -/
inductive Defect where
  | wrongType
  | empty
  | tooLong
  | malformed (text : String)
deriving DecidableEq, Repr

def Defect.message : Defect → String
  | .wrongType => "<type error>"
  | .empty => "Correlation ID cannot be empty"
  | .tooLong => s!"Correlation ID length cannot exceed {maxLength} characters"
  | .malformed text => "Invalid correlation ID format: " ++ text

def ofString (s : String) : Except Defect CorrelationId :=
  if s == "" then .error .empty
  else if hl : s.length ≤ maxLength then
    if hw : isCorrelationText s = true then .ok ⟨s, hl, hw⟩ else .error (.malformed s)
  else .error .tooLong

/-- The tag that a value is. Any value that holds too much is too long, whatever its type. -/
def decode (v : Value) : Except Defect CorrelationId :=
  if !v.truthy then .error .empty
  else match v with
    | .str s => ofString s
    | v =>
      match v.size? with
      | some size => .error (if maxLength < size then .tooLong else .wrongType)
      | none => .error .wrongType

end CorrelationId
end Imagewright
