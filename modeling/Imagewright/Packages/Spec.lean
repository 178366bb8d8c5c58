import Imagewright.Text.Pattern
import Imagewright.Value.Text

/-!
# Resolved packages

## Main definitions

* `PackageSpec`: a package that the package manager has chosen.
* `PackageSpec.nevra`: its name, epoch, version, release and architecture in one text.
* `PackageSpec.outline`: all its fields.
-/
namespace Imagewright

def isChecksumDigit (c : Char) : Bool := ('0' ≤ c && c ≤ '9') || ('a' ≤ c && c ≤ 'f')

/-- The form of a checksum: an algorithm, a colon and hexadecimal digits. -/
def checksumPattern : Text.Pattern :=
  .all [
    .start,
    .first [.word "sha1", .word "sha256", .word "sha384", .word "sha512"],
    .word ":", .many isChecksumDigit, .ending]

def isChecksum (s : String) : Bool := checksumPattern.accepts s

structure PackageSpec where
  name : Value
  epoch : Value
  version : Value
  release : Value
  arch : Value
  remoteLocation : Value
  checksum : String
  checkGpg : Value
  /-- The certificate of the server is not to be checked. -/
  ignoreSsl : Value
  name_truthy : name.truthy = true
  checksum_ok : isChecksum checksum = true

namespace PackageSpec

/-- Why values are no package. -/
inductive Defect where
  | wrongType
  | emptyName
  | badChecksum (name : Value) (checksum : String)

def Defect.message : Defect → String
  | .wrongType => "<type error>"
  | .emptyName => "Package spec name cannot be empty"
  | .badChecksum name checksum => s!"Invalid checksum for package {name.text}: {checksum}"

/-- The values of a package before they are checked. -/
structure Draft where
  name : Value
  epoch : Value := .int 0
  version : Value
  release : Value
  arch : Value
  remoteLocation : Value
  checksum : Value
  checkGpg : Value := .bool false
  ignoreSsl : Value := .bool false

def ofDraft (d : Draft) : Except Defect PackageSpec :=
  if hn : d.name.truthy = true then
    match d.checksum with
    | .str checksum =>
      if hc : isChecksum checksum = true then
        .ok { d with checksum := checksum, name_truthy := hn, checksum_ok := hc }
      else .error (.badChecksum d.name checksum)
    | _ => .error .wrongType
  else .error .emptyName

/-- The name, the epoch unless it is false or zero, the version, the release and the architecture.
-/
def nevra (p : PackageSpec) : String :=
  let evr := s!"{p.version.text}-{p.release.text}"
  let evr := if p.epoch.truthy then s!"{p.epoch.text}:{evr}" else evr
  s!"{p.name.text}-{evr}.{p.arch.text}"

def outline (p : PackageSpec) : Value :=
  .obj [
    ("name", p.name),
    ("epoch", p.epoch),
    ("version", p.version),
    ("release", p.release),
    ("arch", p.arch),
    ("remote_location", p.remoteLocation),
    ("checksum", .str p.checksum),
    ("check_gpg", p.checkGpg),
    ("ignore_ssl", p.ignoreSsl)]

end PackageSpec
end Imagewright
