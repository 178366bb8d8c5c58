import Imagewright.Catalog.Listing
import Imagewright.Service.Address
import Imagewright.Service.Body
import Imagewright.Service.Library

/-!
# The service

The program over HTTP: the catalog is listed, and manifests are made.

## Main definitions

* `Service`: what the service has to answer with.
* `Service.Request`: a request.
* `Service.Problem`: how an error is told.
* `Service.answer`: answers a request.
-/
namespace Imagewright

/-- What the service has to answer with. -/
structure Service where
  registry : Catalog.Registry
  /-- The repositories that are configured for a distribution and an architecture. -/
  configured : String → String → Except RepositoryFolder.Error (List Repository)
  resolver : Resolve.Request → Resolve.Outcome
  library : Service.Library
  /-- How long resolving may take. It is looked at when a manifest is asked for. -/
  timeout : Seconds := Timeout.standard.seconds

namespace Service

structure Request where
  method : String
  address : String
  headers : List (String × String) := []
  body : String := ""
deriving DecidableEq, Repr

/-- A text in lower case, as far as it is ASCII. -/
def lowerName (s : String) : String := String.ofList (s.toList.map Text.asciiLower)

/-- The value of the first header of a name, whose case does not count. -/
def Request.header? (q : Request) (name : String) : Option String :=
  (q.headers.find? fun h => lowerName h.1 == lowerName name).map (·.2)

/-- The tag that the caller has given. What is no tag does not count. -/
def Request.correlationId? (q : Request) : Option CorrelationId :=
  (q.header? "X-Correlation-Id").bind fun s => (CorrelationId.ofString s).toOption

/-- How an error is told: its status, its code and its text. -/
structure Problem where
  status : Nat
  code : String
  message : String
deriving DecidableEq, Repr

def Problem.reply (id : CorrelationId) (p : Problem) : Reply :=
  .detail p.status (.obj [
    ("error", .str p.code),
    ("message", .str p.message),
    ("correlation_id", .str id.text)])

def lookupProblem (e : Catalog.LookupError) : Problem :=
  let code := match e with
    | .distribution _ => "UNSUPPORTED_DISTRIBUTION"
    | .architecture .. => "UNSUPPORTED_ARCHITECTURE"
    | .imageType .. => "UNSUPPORTED_IMAGE_TYPE"
  ⟨404, code, e.message⟩

/-- The problem of mountpoints, none if they are no texts. -/
def mountpointProblem? : Disk.MountpointError → Option Problem
  | .wrongType => none
  | e => some ⟨400, "INVALID_MOUNTPOINT", e.message⟩

/-- The problem of a plan, none if the table itself is no good. -/
def planProblem? : Disk.PlanError → Option Problem
  | .mountpoints e => mountpointProblem? e
  | e@(.insufficient ..) => some ⟨400, "INSUFFICIENT_IMAGE_SIZE", e.message⟩
  | .noRoot | .wrongType => none

/-- The problem of a request that is rejected, none if a value is of the wrong type. -/
def rejectionProblem? : Imagewright.Request.Rejection → Option Problem
  | .wrongType => none
  | .mountpoints e => mountpointProblem? e
  | e@(.unsupported ..) => some ⟨400, "UNSUPPORTED_CUSTOMIZATION", e.message⟩
  | e => some ⟨400, "INVALID_CUSTOMIZATION", e.message⟩

/-- The problem of a manifest that cannot be made. Only errors of disks have one. -/
def requestProblem? : Manifest.RequestError → Option Problem
  | .rejected r => rejectionProblem? r
  | .unbuilt (.disk e) => planProblem? e
  | .unbuilt (.pipelines _) => none

/-- The problem of packages that are not resolved, none if that is not because of the packages. -/
def resolutionProblem? (e : Compose.ResolutionError) : Option Problem :=
  match e with
  | .cancelled | .timedOut _ | .failed _ (.cancelled _) =>
    some ⟨504, "RESOLUTION_CANCELLED", e.message⟩
  | .failed .. => some ⟨502, "PACKAGE_RESOLUTION_FAILED", e.message⟩
  | .noDeadline => none

/-- The problem of a compose, none if its error is not the caller's. -/
def composeProblem? : Compose.Error → Option Problem
  | .lookup e => some (lookupProblem e.error)
  | .request _ e => requestProblem? e.error
  | .resolution e => resolutionProblem? e.error
  | .repositories _ | .missingSpecs _ => none

/-- The problem of a blueprint that cannot be loaded, none if the blueprint is not the reason. -/
def loadProblem? (e : Blueprint.LoadError) : Option Problem :=
  match e with
  | .invalid _ | .malformed _ => some ⟨400, "INVALID_BLUEPRINT", e.message⟩
  | .unknownFormat _ | .unread (.tooManyDigits _) => some ⟨400, "INVALID_REQUEST", e.message⟩
  | .unread _ | .broken | .noFile _ | .nameTooLong _ => none

def commandProblem? : ManifestForm.CommandError → Option Problem
  | .blueprint e => loadProblem? e
  | .repository d => some ⟨400, "INVALID_REQUEST", d.message⟩

/-- The answer with a problem. An error that has none is internal. -/
def Reply.ofProblem? (id : CorrelationId) (p : Option Problem) : Reply :=
  (p.map (·.reply id)).getD .internalError

/-- The answer with a listing, or with the problem of its look-up. -/
def listing (id : CorrelationId) : Except Catalog.LookupError Value → Reply
  | .ok v => .document 200 v
  | .error e => (lookupProblem e).reply id

/-- Makes the manifest that a form asks for, where the calls of the resolver are looked at in some
passes. -/
def generate (s : Service) (timeout : Timeout) (passes : List Compose.Pass) (id : CorrelationId)
    (form : ManifestForm) : Reply :=
  match form.command s.library.readToml id with
  | .error e => .ofProblem? id (commandProblem? e)
  | .ok c =>
    match Compose.execute ⟨s.registry, s.configured, s.resolver, timeout⟩ c passes with
    | .ok r =>
      let manifest := r.manifest.render r.resolution s.library.nullName
      .document 200 (s.library.present { r.response c with manifest }.render)
    | .error e => .ofProblem? id (composeProblem? e)

def answerManifest (s : Service) (passes : List Compose.Pass) (id : CorrelationId)
    (body : Except BodyError (Option Value)) : Reply :=
  match body with
  | .error .malformed => .faulty [{ kind := .notJson, place := bodyPlace }]
  | .error .unread => .unreadable
  | .ok v =>
    match Timeout.ofSeconds s.timeout with
    | .error _ => .internalError
    | .ok timeout =>
      match s.library.readForm v with
      | .faulty faults => .faulty faults
      | .valid form => s.generate timeout passes id form

def answerRoute (s : Service) (passes : List Compose.Pass) (id : CorrelationId) (q : Request) :
    Route → Reply
  | .guide => .document 200 .null
  | .health => .document 200 (.obj [
    ("status", "healthy"),
    ("distributions", .int s.registry.distributionNames.length)])
  | .distributions => .document 200 (s.registry.listReleases id.text)
  | .architectures distribution =>
    listing id (s.registry.listArchitectures id.text distribution)
  | .imageTypes distribution architecture =>
    listing id (s.registry.listTargets id.text distribution architecture)
  | .manifests => s.answerManifest passes id (readBody (q.header? "Content-Type") q.body)

/-- Answers a request. The tag `fresh` is used if the caller has given none. -/
def answer (s : Service) (passes : List Compose.Pass) (fresh : CorrelationId) (q : Request) :
    Reply :=
  match Route.ofAddress? q.address with
  | none => .notFound
  | some route =>
    if route.methods.contains q.method.toUpper then
      s.library.send (s.answerRoute passes (q.correlationId?.getD fresh) q route)
    else .methodNotAllowed

end Service
end Imagewright
