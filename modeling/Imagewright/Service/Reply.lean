import Imagewright.Service.Fault

/-!
# Answers of the service

## Main definitions

* `Service.Reply`: the answer to a request.
* `Service.Reply.Showable`: everything in it has a form in JSON.
-/
namespace Imagewright.Service

/-- The answer to a request. -/
inductive Reply where
  | document (status : Nat) (body : Value)
  /-- The body of the request is not as it has to be. -/
  | faulty (faults : List Fault)

namespace Reply

def status : Reply → Nat
  | document status _ => status
  | faulty _ => 422

/-- An answer that only has a detail. -/
def detail (status : Nat) (v : Value) : Reply := document status (.obj [("detail", v)])

def notFound : Reply := detail 404 "Not Found"

def methodNotAllowed : Reply := detail 405 "Method Not Allowed"

def unreadable : Reply := detail 400 "There was an error parsing the body"

/-- An error that nothing has been made for. -/
def internalError : Reply :=
  document 500 (.obj [
    ("status", "error"),
    ("message", "An internal server error occurred")])

/-- Everything in an answer has a form in JSON. -/
def Showable : Reply → Prop
  | document _ body => isShowable body = true
  | faulty faults => ∀ f ∈ faults, f.shown = true

def summary : Reply → Value
  | document status body => .obj [("status", .int status), ("body", body)]
  | faulty faults => .obj [
    ("status", .int 422),
    ("errors", .list ((sortFaults faults).map Fault.toValue))]

end Reply
end Imagewright.Service
