import Imagewright.Manifest.Basic
import Imagewright.Raised
import Imagewright.Resolve.Request
import Imagewright.Timeout

/-!
# Resolving all package sets of a manifest

One call of the resolver is made for each pipeline with package sets. The calls run side by side and
finish in any order. From time to time the calls that have not finished are looked at: if the caller
has cancelled, or if the timeout has passed, all of them are given up; else what has finished is
collected, and the first failure ends it all. Errors carry the tag of the command that the calls are
made for.

## Main definitions

* `Compose.Pass`: one look at the calls.
* `Compose.Progress`: the calls that have not finished, and what the others have brought.
* `Compose.resolve`: the packages of all pipelines, for a list of looks.
-/
namespace Imagewright.Compose

abbrev Calls := Assoc String Resolve.Request

/-- One look at the calls that have not finished. -/
structure Pass where
  cancelled : Bool := false
  /-- The seconds that have gone by since the calls were made. -/
  elapsed : Double
  /-- The pipelines whose calls finish now, in this order. -/
  finished : List String := []
deriving DecidableEq, Repr

/-- Why there are no packages. -/
inductive ResolutionError where
  | cancelled
  | timedOut (t : Timeout)
  | failed (pipeline : String) (f : Resolve.Failure)
  /-- The timeout is too long for a deadline. -/
  | noDeadline
deriving DecidableEq, Repr

/-- The failure of the call of a pipeline, as it is raised for the command with the tag `id`. What
tells of packages has a place for the tag, and all else is told anew. -/
def raiseFailure (id pipeline : String) (f : Resolve.Failure) : Raised ResolutionError :=
  match f with
  | .unresolved _ | .cancelled _ => ((Raised.tagged f).retag id).map (.failed pipeline)
  | .broken _ => .tagged (.failed pipeline f) id

/-- The calls that have not finished, and the packages that the others have brought. -/
structure Progress where
  pending : Calls
  results : Manifest.Resolution := []
  /-- The tag of the command that the calls are made for. -/
  tag : String := ""

namespace Progress

/-- The call of a pipeline finishes, unless it already has. -/
def finish (resolver : Resolve.Request → Resolve.Outcome) (s : Progress) (pipeline : String) :
    Except (Raised ResolutionError) Progress :=
  match s.pending.get? pipeline with
  | none => .ok s
  | some q =>
    match resolver q with
    | .ok specs => .ok { s with
        pending := s.pending.filter (·.1 != pipeline)
        results := Assoc.set s.results pipeline specs }
    | .error f => .error (raiseFailure s.tag pipeline f)

/-- The calls of some pipelines finish, one after the other. -/
def finishAll (resolver : Resolve.Request → Resolve.Outcome) (s : Progress)
    (pipelines : List String) : Except (Raised ResolutionError) Progress :=
  pipelines.foldlM (finish resolver) s

/-- The packages of all pipelines after some passes. The calls that have not finished by then finish
in the end. -/
def run (t : Timeout) (resolver : Resolve.Request → Resolve.Outcome) (s : Progress) :
    List Pass → Except (Raised ResolutionError) Manifest.Resolution
  | [] => do return (← s.finishAll resolver s.pending.keys).results
  | p :: rest =>
    if s.pending.isEmpty then .ok s.results
    else if p.cancelled then .error (.tagged .cancelled s.tag)
    else if t.isOver p.elapsed then .error (.tagged (.timedOut t) s.tag)
    else do run t resolver (← s.finishAll resolver p.finished) rest

end Progress

/-- The packages of all calls that are made for the command with the tag `id`. If there are any, the
timeout has to make a deadline. -/
def resolve (t : Timeout) (resolver : Resolve.Request → Resolve.Outcome) (calls : Calls)
    (id : String) (passes : List Pass) : Except (Raised ResolutionError) Manifest.Resolution :=
  if !calls.isEmpty && t.seconds.toDouble?.isNone then .error (.plain .noDeadline)
  else Progress.run t resolver { pending := calls, tag := id } passes

end Imagewright.Compose
