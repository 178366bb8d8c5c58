import Imagewright.Compose.Basic
import Imagewright.Log.ComposeLogs

/-!
# The log of a compose

A compose logs that it was asked for, and then one entry about how it ended.

## Main definitions

* `Compose.journal`: the entries of a compose.
* `Compose.logged`: the logs of composes after it.
-/
namespace Imagewright.Compose

open Log (ComposeLogs Entry)

/-- An entry about a command, in the log of its compose too. -/
def entry (c : Command) (level : Log.Level) (message : String) : Entry where
  demand := .entry level
  message := message
  identifier := Log.shorten c.correlationId.text
  composeId := c.correlationId.text

/-- The last entry about a command. -/
def lastEntry (c : Command) (level : Log.Level) (message : String) : Entry :=
  { entry c level message with endSection := true }

def requestedEntry (c : Command) : Entry :=
  entry c .info (s!"Manifest requested: distro={c.distribution}, arch={c.architecture}, " ++
    s!"image_type={c.imageType}")

/-- The entry about a request that was rejected. Errors without a place for a tag are not about the
request and are not logged. -/
def rejection (c : Command) (imageType : String) (e : Raised Manifest.RequestError) :
    Option Entry :=
  e.tag.map fun _ =>
    lastEntry c .warning s!"Manifest rejected: image_type={imageType}, reason={e.error.message}"

/-- The entry about packages that were not resolved, if there is one. -/
def entryOfResolution? (c : Command) : ResolutionError → Option Entry
  | .noDeadline => none
  | .cancelled => some <| lastEntry c .warning "Package resolution cancelled"
  | .timedOut t => some <| lastEntry c .warning s!"Package resolution timed out after {t.text}s"
  | .failed pipeline (.broken _) => some
    { lastEntry c .error s!"Package resolver raised unexpectedly: pipeline={pipeline}" with
      trace := some .marked }
  | .failed pipeline f => some <|
    lastEntry c .error s!"Package resolution failed: pipeline={pipeline}, reason={f.message}"

def generatedEntry (c : Command) (r : Composition) : Entry :=
  let pipelines := String.intercalate "," r.manifest.pipelineNames
  let warnings := r.warnings.length
  lastEntry c .info (s!"Manifest generated: image_type={r.target.name}, pipelines={pipelines}, " ++
    s!"packages={r.packageCount}, warnings={warnings}")

/-- The entry about how a compose ended, if there is one. -/
def conclusion (c : Command) : Except Error Composition → Option Entry
  | .ok r => some (generatedEntry c r)
  | .error (.lookup e) =>
    some (lastEntry c .warning ("Image type lookup failed: " ++ e.error.message))
  | .error (.request imageType e) => rejection c imageType e
  | .error (.resolution e) => entryOfResolution? c e.error
  | .error (.repositories _) | .error (.missingSpecs _) => none

def journal (c : Command) (r : Except Error Composition) : List Entry :=
  requestedEntry c :: (conclusion c r).toList

/-- The logs of composes after a compose that ended in some way. -/
def logged (logs : ComposeLogs) (c : Command) (r : Except Error Composition) :
    Except ComposeLogs.Error ComposeLogs := do
  let (logs, _) ← logs.create c.correlationId.text
  let logs ← (journal c r).foldlM (fun logs e => do return (← logs.write e).1) logs
  return logs.remove c.correlationId.text

end Imagewright.Compose
