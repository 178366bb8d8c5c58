import Imagewright.Catalog.Target
import Imagewright.Raised
import Imagewright.Request.Options
import Imagewright.Text.Pattern

/-!
# Validation of requests

A blueprint and its options are checked against an image type. The checks run in a fixed order, and
the first one that fails decides the answer. Each check is told the tag of the request, so that its
rejection can carry it.

## Main definitions

* `Request.Rejection`: why a request is rejected.
* `Request.Warning`: what of a request will be ignored.
* `Request.validateFor`: all checks, for the request with a tag.
* `Request.validate`: all checks, where nobody looks at tags.
-/
namespace Imagewright.Request

open Blueprint (Customizations FdoSettings Kind)
open Catalog (ImageType)
open Disk (MountpointError MountpointPolicy)

/-- The two refs of the options. -/
inductive RefField where
  | ref
  | parent
deriving DecidableEq, Repr

def RefField.name : RefField → String
  | .ref => "ref"
  | .parent => "parent"

/-- What a path of the image tree is asked for as. -/
inductive NodeKind where
  | directory
  | file
deriving DecidableEq, Repr

def NodeKind.name : NodeKind → String
  | .directory => "directory"
  | .file => "file"

/-- Why a request is rejected. -/
inductive Rejection where
  | wrongType
  | invalidRef (field : RefField) (ref : String)
  | parentWithoutUrl
  | noCommitUrl (imageType : String) (bootIso : Bool)
  | unsupported (imageType : String) (bootIso : Bool) (disallowed allowed : List Kind)
  | noInstallationDevice (imageType : String)
  | noOnboardingServer (imageType : String)
  | noSingleOnboardingKey (imageType : String)
  | kernelOptionsOfCommit
  | mountpointsOfCommit
  | mountpoints (e : MountpointError)
  | badPath (path : String)
  | duplicatePath (kind : NodeKind) (path : String)
  | fileAndDirectory (path : String)
  | fileUnderFile (path above : String)
  | badMode (mode : String)
  | enabledAndDisabled (services : List String)
deriving DecidableEq, Repr

/-- The names of kinds, with commas between them. -/
def kindNames (kinds : List Kind) : String :=
  if kinds.isEmpty then "None" else String.intercalate ", " (kinds.map Kind.name)

/-- What an image type is called in a message. -/
def calledType (imageType : String) (bootIso : Bool) : String :=
  (if bootIso then "boot ISO image type \"" else "image type \"") ++ imageType ++ "\""

def Rejection.message : Rejection → String
  | .wrongType => "<type error>"
  | .invalidRef field ref => s!"Invalid ostree {field.name} {Text.quote ref}"
  | .parentWithoutUrl => "ostree parent ref specified, but no URL to retrieve it"
  | .noCommitUrl imageType bootIso =>
    calledType imageType bootIso ++
      " requires specifying a URL from which to retrieve the OSTree commit"
  | .unsupported imageType bootIso _ allowed =>
    s!"unsupported blueprint customizations found for {calledType imageType bootIso}: " ++
      s!"(allowed: {kindNames allowed})"
  | .noInstallationDevice imageType =>
    calledType imageType true ++ " requires specifying an installation device to install to"
  | .noOnboardingServer imageType =>
    calledType imageType true ++ " requires specifying FDO.ManufacturingServerURL " ++
      "configuration to install to when using FDO"
  | .noSingleOnboardingKey imageType =>
    calledType imageType true ++ " requires specifying one of " ++
      "[FDO.DiunPubKeyHash,FDO.DiunPubKeyInsecure,FDO.DiunPubKeyRootCerts] configuration to " ++
      "install to when using FDO"
  | .kernelOptionsOfCommit =>
    "kernel boot parameter customizations are not supported for ostree types"
  | .mountpointsOfCommit => "Custom mountpoints are not supported for ostree types"
  | .mountpoints e => e.message
  | .badPath path => s!"path {Text.quote path} must be an absolute path in canonical form"
  | .duplicatePath kind path => s!"duplicate {kind.name} customization for path {Text.quote path}"
  | .fileAndDirectory path => s!"path {Text.quote path} cannot be both a file and a directory"
  | .fileUnderFile path above =>
    s!"file {Text.quote path} cannot be created under file {Text.quote above}"
  | .badMode mode => s!"mode {Text.quote mode} must be an octal number"
  | .enabledAndDisabled services =>
    "services cannot be both enabled and disabled: " ++ String.intercalate ", " services

instance : MonadLift (Except Value.Mismatch) (Except (Raised Rejection)) :=
  ⟨Except.mapError fun _ => .plain .wrongType⟩

/-- What of a request will be ignored. -/
inductive Warning where
  | packages (imageType : String)
  | size (imageType : String)
deriving DecidableEq, Repr

def Warning.message : Warning → String
  | .packages imageType =>
    s!"blueprint packages are ignored for {calledType imageType false}: the OS tree comes from " ++
      "the OSTree commit"
  | .size imageType => "image size is ignored for " ++ calledType imageType false

/-- Rejects the request with a tag unless a condition holds. -/
def require (ok : Bool) (r : Rejection) (id : String) : Except (Raised Rejection) Unit :=
  if ok then .ok () else .error (.tagged r id)

def isRefChar (c : Char) : Bool := c == '-' || c == '.' || Text.isWord c

/-- A segment of a ref: a word character, digits among them, and then hyphens and points too. -/
def refSegment : Text.Pattern := .seq (.one Text.isWord) (.run isRefChar)

/-- The form of a ref: segments with slashes between them. -/
def refPattern : Text.Pattern :=
  .all [.start, .repeated (.seq refSegment (.word "/")), refSegment, .ending]

def isRef (s : String) : Bool := refPattern.accepts s

/-- A ref that is given is well formed. -/
def checkRef (field : RefField) (ref : String) (id : String := "") :
    Except (Raised Rejection) Unit :=
  require (ref == "" || isRef ref) (.invalidRef field ref) id

/-- The refs are well formed, and the parent can be fetched. -/
def checkOstree (o : OstreeOptions) (id : String := "") : Except (Raised Rejection) Unit := do
  checkRef .ref o.ref id
  checkRef .parent o.parent id
  require (o.parent == "" || o.url.truthy) .parentWithoutUrl id

/-- The blueprint uses only kinds of customizations that the image type allows. -/
def checkAllowed (t : ImageType) (c : Customizations) (id : String := "") :
    Except (Raised Rejection) Unit :=
  match t.allowed with
  | none => .ok ()
  | some allowed =>
    let disallowed := c.presentKinds.filter (!allowed.contains ·)
    require disallowed.isEmpty (.unsupported t.name t.family.bootIso disallowed allowed) id

/-- Device onboarding has a server and one key option. -/
def checkOnboarding (imageType : String) (fdo : FdoSettings) (id : String := "") :
    Except (Raised Rejection) Unit := do
  require fdo.manufacturingServerUrl.truthy (.noOnboardingServer imageType) id
  require (fdo.diunOptions == 1) (.noSingleOnboardingKey imageType) id

/-- A simplified installer knows where to install to and how to onboard. -/
def checkSimplifiedInstaller (imageType : String) (c : Customizations) (id : String := "") :
    Except (Raised Rejection) Unit := do
  require c.installationDevice.truthy (.noInstallationDevice imageType) id
  match c.fdo with
  | some fdo => checkOnboarding imageType fdo id
  | none => return

/-- A commit has no boot parameters and no partitions. -/
def checkCommit (c : Customizations) (id : String := "") : Except (Raised Rejection) Unit := do
  require (!c.kernelAppend.truthy) .kernelOptionsOfCommit id
  require c.filesystem.isEmpty .mountpointsOfCommit id

/-- The path of a directory or a file: clean, and not the root of the tree. -/
def checkPath (path : Value) (id : String := "") : Except (Raised Rejection) String := do
  let path ← path.asText
  require (Disk.isClean path && path != "/") (.badPath path) id
  return path

/-- The first text of a list that stands in it before. `seen` are the texts before it. -/
def firstRepeatFrom (seen : List String) : List String → Option String
  | [] => none
  | s :: rest => if seen.contains s then some s else firstRepeatFrom (s :: seen) rest

/-- No path is asked for twice. -/
def checkRepeats (kind : NodeKind) (paths : List String) (id : String := "") :
    Except (Raised Rejection) Unit :=
  match firstRepeatFrom [] paths with
  | some path => .error (.tagged (.duplicatePath kind path) id)
  | none => .ok ()

/-- The first pair of files of which one is below the other. -/
def firstNested (files : List String) : Option (String × String) :=
  files.findSome? fun path =>
    (files.find? fun above => (above.toList ++ ['/']).isPrefixOf path.toList).map (path, ·)

def isOctalDigit (c : Char) : Bool := '0' ≤ c && c ≤ '7'

/-- The form of a mode: three or four octal digits, which one zero may precede. -/
def modePattern : Text.Pattern :=
  .all [
    .start, .optional (· == '0'), .one isOctalDigit, .one isOctalDigit, .one isOctalDigit,
    .optional isOctalDigit, .ending]

def isMode (s : String) : Bool := modePattern.accepts s

/-- A mode that is given is well formed. -/
def checkMode (mode : Value) (id : String := "") : Except (Raised Rejection) Unit := do
  if mode.isNull then return
  else
    let mode ← mode.asText
    require (isMode mode) (.badMode mode) id

/-- Directories and files form a tree, and their modes are well formed. -/
def checkTree (c : Customizations) (id : String := "") : Except (Raised Rejection) Unit := do
  let directories ← c.directories.mapM fun d => checkPath d.path id
  let files ← c.files.mapM fun f => checkPath f.path id
  checkRepeats .directory directories id
  checkRepeats .file files id
  match Text.sort (directories.filter files.contains) with
  | path :: _ => throw (.tagged (.fileAndDirectory path) id)
  | [] => pure ()
  match firstNested files with
  | some (path, above) => throw (.tagged (.fileUnderFile path above) id)
  | none => pure ()
  c.directories.forM fun d => checkMode d.mode id
  c.files.forM fun f => checkMode f.mode id

def textsOf (values : List Value) : Except Value.Mismatch (List String) := values.mapM Value.asText

/-- Only values that are no lists and no objects can be compared with others. -/
def comparable (values : List Value) : Except Value.Mismatch Unit :=
  if values.all Value.isAtomic then .ok () else .error .wrongType

/-- No unit is both enabled and disabled. Units are compared, and those in both lists are texts. -/
def checkServices (c : Customizations) (id : String := "") : Except (Raised Rejection) Unit := do
  match c.services with
  | none => return
  | some s =>
    comparable (s.enabled ++ s.disabled)
    let both ← textsOf (s.enabled.filter (Value.isIn · s.disabled))
    require both.isEmpty (.enabledAndDisabled (Text.sort (Disk.distinct both))) id

/-- What of a valid request will be ignored. -/
def warnings (t : ImageType) (b : Blueprint) (o : Options) : List Warning :=
  (if t.family.takesCommit && !b.specs.isEmpty then [.packages t.name] else []) ++
    if o.size != 0 && !t.family.partitioned then [.size t.name] else []

/-- All checks, for the request with the tag `id`. The check of mountpoints knows nothing about
requests, and the tags of its rejections are empty. -/
def validateFor (policy : MountpointPolicy) (t : ImageType) (b : Blueprint) (o : Options)
    (id : String) : Except (Raised Rejection) (List Warning) := do
  let c := b.settings
  match o.ostree with
  | some ostree => checkOstree ostree id
  | none => pure ()
  if t.family.bootIso && t.family.rpmOstree then
    require o.ostreeUrl.truthy (.noCommitUrl t.name true) id
  checkAllowed t c id
  if t.family == .simplifiedInstaller then checkSimplifiedInstaller t.name c id
  if t.family.producesCommit then checkCommit c id
  match Disk.checkMountpoints policy c.filesystem with
  | .error .wrongType => throw (.plain .wrongType)
  | .error e => throw (.tagged (.mountpoints e))
  | .ok _ => pure ()
  if t.family == .ostreeDisk then require o.ostreeUrl.truthy (.noCommitUrl t.name false) id
  checkTree c id
  checkServices c id
  return warnings t b o

/-- All checks, where nobody looks at tags. -/
def validate (policy : MountpointPolicy) (t : ImageType) (b : Blueprint) (o : Options) :
    Except Rejection (List Warning) := Raised.untagged (validateFor policy t b o "")

end Imagewright.Request
