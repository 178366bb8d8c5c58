import Imagewright.Json.Reader
import Imagewright.Text.Blank
import Imagewright.Text.Encoding
import Imagewright.Text.Letters
import Imagewright.Text.Pieces

/-!
# Bodies of requests

The body of a request is read as JSON if its headers say so. Anything else is a text that nothing is
made of.

## Main definitions

* `Service.MediaType`: what a header says that a body is.
* `Service.readBody`: the value of a body.
-/
namespace Imagewright.Service

/-- What a header says that a body is. -/
structure MediaType where
  type : String
  subtype : String
deriving DecidableEq, Repr

namespace MediaType

/-- The media type of a header, whose case does not count. Parameters follow a semicolon. -/
def ofHeader? (header : String) : Option MediaType :=
  let essence := Text.trim (header.toList.takeWhile (· != ';'))
  match Text.pieces '/' (essence.map Text.asciiLower) with
  | [type, subtype] => some ⟨String.ofList type, String.ofList subtype⟩
  | _ => none

/-- The body is JSON, or something that is written as JSON. -/
def isJson (m : MediaType) : Bool :=
  m.type == "application" && (m.subtype == "json" || m.subtype.endsWith "+json")

end MediaType

/-- A body is JSON if its media type says so, or if it has none. -/
def announcesJson (contentType : Option String) : Bool :=
  match contentType with
  | some header => (MediaType.ofHeader? header).any (·.isJson)
  | none => true

/-- Why a body has no value. -/
inductive BodyError where
  /-- It is no JSON. -/
  | malformed
  /-- It is no text, or it goes beyond a limit of the reader. -/
  | unread
deriving DecidableEq, Repr

def maxBodyDepth : Nat := 940

def readJson (cs : List Char) : Except BodyError Value :=
  match Json.read (String.ofList cs) maxBodyDepth with
  | .ok v => .ok v
  | .error .malformed => .error .malformed
  | .error _ => .error .unread

/-- The value of a body, none if the body is empty. -/
def readBody (contentType : Option String) (body : String) : Except BodyError (Option Value) :=
  if body == "" then .ok none
  else if !announcesJson contentType then .ok (some (.str body))
  else
    match Text.Encoding.read? body.toUTF8.toList with
    | some cs => some <$> readJson cs
    | none => .error .unread

end Imagewright.Service
