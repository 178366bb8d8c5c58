import Imagewright.Assoc
import Imagewright.Json.Printer
import Imagewright.Json.Reader
import Imagewright.Number.Shortest
import Imagewright.Resolve.Request
import Imagewright.Text.Numeral
import Imagewright.Timeout
import Imagewright.Value.Text

/-!
# Resolving by a helper program

The helper reads one JSON document with a request and writes one with the packages, or with an error
if it fails.

## Main definitions

* `Resolve.Depsolve.document`: what the helper is told.
* `Resolve.Depsolve.interpret`: what its answer means.
* `Resolve.Depsolve.resolve`: asks the helper.
-/
namespace Imagewright.Resolve

/-- How the helper is run. -/
structure Depsolve where
  command : Value := "/usr/libexec/osbuild-depsolve-dnf"
  cacheDir : Value := ""
  /-- How long it may run, in seconds. It is looked at when it is needed. -/
  timeout : Value := .int 300

namespace Depsolve

/-- How a run of the helper ends. -/
inductive Ending where
  | timedOut
  | notStarted (reason : String)
  /-- The time that it may run is none that can be waited for. -/
  | unwaitable (reason : String)
  | exited (code stdout stderr : Value)

/-- Why a package of the answer is no package. -/
inductive PackageDefect where
  | mismatch (m : Value.Mismatch)
  | epoch (e : Text.NumeralError)
  /-- The epoch is no number. -/
  | undefinedEpoch
  | spec (d : PackageSpec.Defect)

def PackageDefect.message : PackageDefect → String
  | .mismatch m => m.message
  | .epoch e => e.message
  | .undefinedEpoch => "cannot convert float NaN to integer"
  | .spec d => d.message

/-- Why the helper has no answer. -/
inductive Error where
  | deadlinePassed
  /-- It ran out of time, which is given as a text. -/
  | timedOut (timeout : String)
  | notStarted (command : Value) (reason : String)
  | unwaitable (reason : String)
  | failed (kind reason : Value)
  | exited (code : Value) (stderr : String)
  | malformedOutput
  | noPackageList
  | badPackage (d : PackageDefect)
  /-- The answer goes beyond a limit of the reader. -/
  | unread (e : Json.ReadError)
  | infiniteEpoch
  /-- A time is beyond the range of floating-point numbers. -/
  | longTime
  /-- A time is a text. -/
  | textTime
  | wrongType

def Error.message : Error → String
  | .deadlinePassed => "depsolve skipped: resolution deadline passed"
  | .timedOut timeout => s!"depsolve timed out after {timeout} seconds"
  | .notStarted command reason => s!"failed to run {command.text}: {reason}"
  | .unwaitable reason => reason
  | .failed kind reason => s!"depsolve failed: {kind.text}: {reason.text}"
  | .exited code stderr => s!"depsolve exited with code {code.text}: {stderr}"
  | .malformedOutput => "invalid JSON from depsolve: <syntax error>"
  | .noPackageList => "depsolve output has no package list"
  | .badPackage d => "malformed package in depsolve output: " ++ d.message
  | .unread e => e.message
  | .infiniteEpoch => "cannot convert float infinity to integer"
  | .longTime => "int too large to convert to float"
  | .textTime => "Unknown format code 'g' for object of type 'str'"
  | .wrongType => "<type error>"

def Error.failure : Error → Failure
  | e@.deadlinePassed | e@(.timedOut _) => .cancelled e.message
  | e@(.unwaitable _) | e@(.unread _) | e@.infiniteEpoch | e@.longTime | e@.textTime
  | e@.wrongType => .broken e.message
  | e => .unresolved e.message

instance : MonadLift (Except Value.Mismatch) (Except PackageDefect) :=
  ⟨Except.mapError .mismatch⟩

/-- The repositories of a list by their identifiers. The first one of an identifier counts. -/
def firstById (repositories : List Repository) : Assoc String Repository :=
  repositories.foldl (fun m r => if m.contains r.id.text then m else m.set r.id.text r) []

/-- The repositories of a list by their identifiers. The last one of an identifier counts. -/
def lastById (repositories : List Repository) : Assoc String Repository :=
  Assoc.ofList (repositories.map fun r => (r.id.text, r))

def transaction (s : PackageSet) : Value :=
  .obj [
    ("package-specs", .list s.install),
    ("exclude-specs", .list s.exclude),
    ("repo-ids", Value.texts (s.repositories.map (·.id.text))),
    ("install_weak_deps", .bool true)]

def document (d : Depsolve) (q : Request) : Value :=
  .obj [
    ("command", "depsolve"),
    ("arch", q.arch),
    ("module_platform_id", q.modulePlatformId),
    ("releasever", q.releasever),
    ("cachedir", d.cacheDir),
    ("arguments", .obj [
      ("repos", .list ((firstById q.repositories).map (·.2.request))),
      ("transactions", .list (q.chain.map transaction))])]

/-- A run of the helper. -/
structure Call where
  arguments : List Value
  input : Value
  timeout : Value

/-- The seconds that a value is, in the range of floating-point numbers. -/
def timeOf (v : Value) : Except Error Double :=
  match Seconds.ofValue? v with
  | none => .error .wrongType
  | some s =>
    match s.toDouble? with
    | some x => .ok x
    | none => .error .longTime

/-- How long the helper may run if so much time is left in all. Null sets no limit. -/
def callTimeout (d : Depsolve) (remaining : Value) : Except Error Value := do
  if remaining.isNull then return d.timeout
  let left ← timeOf remaining
  if left.isNonPositive then throw .deadlinePassed
  match Seconds.ofValue? d.timeout with
  | some s => return if left.compare? s.exact == some .lt then .float left else d.timeout
  | none => throw .wrongType

/-- The run of the helper for a request, unless there is no time left. A request with a moment
cannot be written. -/
def call (d : Depsolve) (q : Request) (remaining : Value) : Except Error Call := do
  let timeout ← d.callTimeout remaining
  if !Json.isWritable (d.document q) then throw .wrongType
  return { arguments := [d.command], input := d.document q, timeout }

def tellTime : Value → Except Error String
  | .str _ => .error .textTime
  | v => return (← timeOf v).brief

/-- What the helper wrote besides its answer. What is false counts as nothing. -/
def complaintOf (stderr : Value) : Except Error String :=
  match stderr with
  | .str s => .ok (Text.strip s)
  | v => if v.truthy then .error .wrongType else .ok ""

/-- The error that a helper reports which failed. -/
def reportedError (code stdout stderr : Value) : Error :=
  let unreported := match complaintOf stderr with
    | .ok s => .exited code s
    | .error e => e
  match stdout with
  | .str s =>
    match Json.read s with
    | .error .malformed => unreported
    | .error e => .unread e
    | .ok v =>
      match v.field "kind", v.field "reason" with
      | .ok kind, .ok reason => .failed kind reason
      | _, _ => unreported
  | _ => unreported

/-- The epoch that a value denotes. What is false counts as zero. -/
def epochOf (v : Value) : Except Error Int :=
  if !v.truthy then .ok 0
  else match v with
    | .int n => .ok n
    | .bool _ => .ok 1
    | .str s => (Text.readInt 10 s).mapError (.badPackage ∘ .epoch)
    | .float (.nan _) => .error (.badPackage .undefinedEpoch)
    | .float x =>
      match x.truncate? with
      | some n => .ok n
      | none => .error .infiniteEpoch
    | _ => .error (.badPackage (.mismatch .wrongType))

def part {α : Type} (x : Except Value.Mismatch α) : Except Error α :=
  x.mapError (.badPackage ∘ .mismatch)

/-- The repository of an identifier. Lists and objects are no identifiers. -/
def repositoryOf (repositories : Assoc String Repository) (id : Value) :
    Except Value.Mismatch (Option Repository) :=
  match id with
  | .str s => .ok (repositories.get? s)
  | id => if id.isAtomic then .ok none else .error .wrongType

/-- A package of the answer. What it does not say about signatures its repository says. -/
def packageOf (repositories : Assoc String Repository) (v : Value) : Except Error PackageSpec := do
  let repository ← part (do repositoryOf repositories (← v.getD "repo_id" ""))
  let name ← part (v.field "name")
  let epoch ← epochOf (← part (v.getD "epoch" .null))
  let version ← part (v.field "version")
  let release ← part (v.field "release")
  let arch ← part (v.field "arch")
  let remoteLocation ← part (v.field "remote_location")
  let checksum ← part (v.field "checksum")
  let checkGpg ← part (v.getD "check_gpg" (.bool ((repository.map (·.checkGpg)).getD false)))
  (PackageSpec.ofDraft {
    name, version, release, arch, remoteLocation, checksum
    epoch := .int epoch
    checkGpg := .bool checkGpg.truthy
    ignoreSsl := .bool ((repository.map (·.ignoreSsl)).getD false) }).mapError (.badPackage ∘ .spec)

def packagesOf (repositories : Assoc String Repository) (v : Value) :
    Except Error (List PackageSpec) :=
  match v.get? "packages" with
  | .ok (some (.list packages)) => packages.mapM (packageOf repositories)
  | _ => .error .noPackageList

def answerOf (q : Request) : Value → Except Error (List PackageSpec)
  | .str stdout =>
    match Json.read stdout with
    | .error .malformed => .error .malformedOutput
    | .error e => .error (.unread e)
    | .ok v => packagesOf (lastById q.repositories) v
  | _ => .error .wrongType

def interpret (d : Depsolve) (q : Request) (c : Call) : Ending → Except Error (List PackageSpec)
  | .timedOut => do throw (.timedOut (← tellTime c.timeout))
  | .notStarted reason => .error (.notStarted d.command reason)
  | .unwaitable reason => .error (.unwaitable reason)
  | .exited code stdout stderr =>
    if code.sameAsInt 0 then answerOf q stdout else .error (reportedError code stdout stderr)

/-- Asks the helper, unless there is no time left. -/
def resolve (d : Depsolve) (q : Request) (remaining : Value) (helper : Call → Ending) :
    Except Error (List PackageSpec) := do
  let c ← d.call q remaining
  d.interpret q c (helper c)

end Depsolve
end Imagewright.Resolve
