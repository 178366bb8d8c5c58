import Imagewright.Proofs.Blueprint.Faults
import Imagewright.Proofs.Blueprint.Sound

/-!
# Decoding contains every fault

Decoding told operation by operation: each operation on a value may be at fault, and two handlers
turn the faults they know into an error of the blueprint. No other fault comes out, whatever the
document holds, so decoding ends with a blueprint or with an error of the blueprint.

## Main definitions

* `Faulting.decode`: decoding told operation by operation.

## Main statements

* `Faulting.reports_decodeSettings`, `Faulting.reports_decodePackages`: what the handlers see.
* `Faulting.decode_eq`: decoding is decoding told operation by operation.
* `Blueprint.decode_contained`: a sound blueprint or an error of the blueprint.
-/
namespace Imagewright

open Blueprint

namespace Faulting

/-! ## Decoding, operation by operation -/

section Decoding

variable {α : Type}

/-- A section of the customizations, unless it is not there or null. -/
def decodeSection (data : Value) (key : String) (decode : Value → Except Fault α) :
    Except Fault (Option α) := do
  let present ← getOr data key .null
  if present.isNull then return none
  else return some (← decode (← subscript data key))

def itemsAt (data : Value) (key : String) : Except Fault (List Value) := do
  iterate (← getOr data key (.list []))

def decodeEntries (data : Value) (key : String) (decode : Value → Except Fault α) :
    Except Fault (List α) := do
  (← itemsAt data key).mapM decode

end Decoding

/-- A name that is not empty or blank. Only texts have a method that takes blanks away. -/
def decodeName (what : Named) (name : Value) : Except Fault Text.NonBlank :=
  let blank := Fault.rejected (Defect.blankName what).message
  if name.truthy then
    match name with
    | .str s =>
      if h : Text.strip s = "" then .error blank
      else .ok ⟨s, Bool.eq_false_iff.2 (mt Text.strip_eq_empty_iff.2 h)⟩
    | _ => .error .method
  else .error blank

def decodeKernel (v : Value) : Except Fault KernelSettings := do
  return { name := ← getOr v "name" "", append := ← getOr v "append" "" }

def decodeTimezone (v : Value) : Except Fault TimezoneSettings := do
  return { timezone := ← getOr v "timezone" .null, ntpServers := ← itemsAt v "ntpservers" }

def decodeLocale (v : Value) : Except Fault LocaleSettings := do
  return { languages := ← itemsAt v "languages", keyboard := ← getOr v "keyboard" .null }

def decodeFirewall (v : Value) : Except Fault FirewallSettings := do
  let services := orEmpty (← getOr v "services" .null)
  return {
    ports := ← itemsAt v "ports"
    enabledServices := ← itemsAt services "enabled"
    disabledServices := ← itemsAt services "disabled" }

def decodeServices (v : Value) : Except Fault ServiceSettings := do
  return {
    enabled := ← itemsAt v "enabled"
    disabled := ← itemsAt v "disabled"
    masked := ← itemsAt v "masked" }

def decodeFdo (v : Value) : Except Fault FdoSettings := do
  return {
    manufacturingServerUrl := ← getOr v "manufacturing_server_url" ""
    diunPubKeyInsecure := (← getOr v "diun_pub_key_insecure" (.bool false)).truthy
    diunPubKeyHash := ← getOr v "diun_pub_key_hash" ""
    diunPubKeyRootCerts := ← getOr v "diun_pub_key_root_certs" "" }

def decodeOpenscap (v : Value) : Except Fault OpenscapSettings := do
  return { profileId := ← subscript v "profile_id", datastream := ← getOr v "datastream" "" }

def decodeIgnition (v : Value) : Except Fault IgnitionSettings := do
  return {
    embeddedConfig := ← getOr (orEmpty (← getOr v "embedded" .null)) "config" ""
    firstbootUrl := ← getOr (orEmpty (← getOr v "firstboot" .null)) "url" "" }

def decodeInstaller (v : Value) : Except Fault InstallerSettings := do
  return {
    unattended := (← getOr v "unattended" (.bool false)).truthy
    sudoNopasswd := ← itemsAt v "sudo-nopasswd" }

def decodeSshKey (v : Value) : Except Fault SshKey := do
  return { user := ← subscript v "user", key := ← subscript v "key" }

def decodeUser (v : Value) : Except Fault User := do
  let name ← subscript v "name"
  let description ← getOr v "description" .null
  let password ← getOr v "password" .null
  let key ← getOr v "key" .null
  let home ← getOr v "home" .null
  let shell ← getOr v "shell" .null
  let groups ← itemsAt v "groups"
  let uid ← getOr v "uid" .null
  let gid ← getOr v "gid" .null
  let name ← decodeName .user name
  return { name, description, password, key, home, shell, groups, uid, gid }

def decodeGroup (v : Value) : Except Fault Group := do
  let name ← subscript v "name"
  let gid ← getOr v "gid" .null
  return { name := ← decodeName .group name, gid }

/-- A mountpoint with its least size. The size is checked twice: where it is read and where the
mountpoint gets it. -/
def decodeFilesystem (v : Value) : Except Fault FilesystemRequest := do
  let mountpoint ← subscript v "mountpoint"
  let size ← getOr v "minsize" (.int 0)
  let bytes ← (parseSize size).mapError fun e => .rejected e.message
  (FilesystemRequest.ofInt mountpoint bytes).mapError fun d => .rejected d.message

def decodeDirectory (v : Value) : Except Fault Directory := do
  return {
    path := ← subscript v "path"
    user := ← getOr v "user" .null
    group := ← getOr v "group" .null
    mode := ← getOr v "mode" .null
    ensureParents := (← getOr v "ensure_parents" (.bool false)).truthy }

def decodeFile (v : Value) : Except Fault File := do
  let file : File := {
    path := ← subscript v "path"
    user := ← getOr v "user" .null
    group := ← getOr v "group" .null
    mode := ← getOr v "mode" .null
    data := ← getOr v "data" .null }
  if file.data.isNull then return file
  else
    let size ← length file.data
    if File.maxDataLength < size then throw (.rejected (Defect.dataTooLong file.path).message)
    else return file

def decodeSettings (data : Value) : Except Fault Customizations := do
  let kernel ← decodeSection data "kernel" decodeKernel
  let timezone ← decodeSection data "timezone" decodeTimezone
  let locale ← decodeSection data "locale" decodeLocale
  let firewall ← decodeSection data "firewall" decodeFirewall
  let services ← decodeSection data "services" decodeServices
  let fdo ← decodeSection data "fdo" decodeFdo
  let openscap ← decodeSection data "openscap" decodeOpenscap
  let ignition ← decodeSection data "ignition" decodeIgnition
  let installer ← decodeSection data "installer" decodeInstaller
  let hostname ← getOr data "hostname" .null
  let sshKeys ← decodeEntries data "sshkey" decodeSshKey
  let users ← decodeEntries data "user" decodeUser
  let groups ← decodeEntries data "group" decodeGroup
  let filesystem ← decodeEntries data "filesystem" decodeFilesystem
  let installationDevice ← getOr data "installation_device" ""
  let directories ← decodeEntries data "directories" decodeDirectory
  let files ← decodeEntries data "files" decodeFile
  let fips ← getOr data "fips" .null
  return {
    hostname, kernel, sshKeys, users, groups, timezone, locale, firewall, services, filesystem
    installationDevice, fdo, openscap, ignition, directories, files, fips, installer }

def decodePackage (v : Value) : Except Fault Package := do
  let name ← subscript v "name"
  let version ← getOr v "version" ""
  return ⟨← decodeName .package name, version⟩

def decodePackages (data : Value) : Except Fault (List Package × List Package × List Value) := do
  let packages ← decodeEntries data "packages" decodePackage
  let modules ← decodeEntries data "modules" decodePackage
  let groups ← decodeEntries data "groups" fun g => subscript g "name"
  return (packages, modules, groups)

/-- How decoding can end without a blueprint. -/
inductive Failure where
  /-- An error of the blueprint. -/
  | invalid (message : String)
  /-- A fault that nothing handled. -/
  | unhandled (f : Fault)

/-- Turns the faults that are handled into errors of the blueprint. -/
def handle {α : Type} (lead : String) (x : Except Fault α) : Except Failure α :=
  x.mapError fun f => if f.isHandled then .invalid (lead ++ f.text) else .unhandled f

/-- Operations outside of a handler. -/
instance : MonadLift (Except Fault) (Except Failure) := ⟨Except.mapError .unhandled⟩

/-- The customizations, unless they are not there or null. -/
def decodeCustomizations (data : Value) : Except Failure (Option Customizations) := do
  let present ← getOr data "customizations" .null
  if present.isNull then return none
  else
    let v ← subscript data "customizations"
    return some (← handle "Invalid blueprint customizations: " (decodeSettings v))

def decode (data : Value) : Except Failure Blueprint := do
  match data with
  | .obj _ =>
    let (packages, modules, groups) ←
      handle "Invalid blueprint packages: " (decodePackages data)
    let customizations ← decodeCustomizations data
    return {
      name := (← getOr data "name" "").text
      description := (← getOr data "description" "").text
      version := (← getOr data "version" "").text
      packages, modules, groups, customizations }
  | _ => throw (.invalid "Blueprint must be a mapping")

/-! ## Reports of the decoders

A decoder makes the operations of decoding in their order, so a proof goes through them one after
another, by the rule for two steps. -/

section Reports

variable {α : Type}

theorem reports_itemsAt (v : Value) (key : String) :
    Reports (itemsAt v key) (liftM (v.itemsAt key)) := reports_iterate v key

theorem reports_decodeSection (data : Value) (key : String) {f : Value → Except Fault α}
    {g : Value → Except Defect α} (h : ∀ v, Reports (f v) (g v)) :
    Reports (decodeSection data key f) (Blueprint.decodeSection data key g) := by
  refine (reports_getOr data key .null).bind_of_eq fun v hv => ?_
  split
  · exact .pure none
  · next hnull =>
    rw [subscript_of_getOr hv hnull, Outcome.ok_bind]
    exact (h v).bind fun a => .pure (some a)

theorem reports_decodeEntries (data : Value) (key : String) {f : Value → Except Fault α}
    {g : Value → Except Defect α} (h : ∀ v, Reports (f v) (g v)) :
    Reports (decodeEntries data key f) (Blueprint.decodeEntries data key g) :=
  (reports_itemsAt data key).bind fun items => .mapM h items

theorem reports_decodeName (what : Named) (v : Value) :
    Reports (decodeName what v) (Blueprint.decodeName what v) := by
  unfold decodeName Blueprint.decodeName
  cases v with
  | str s =>
    cases hblank : Text.isAllBlank s with
    | false =>
      have hstrip : Text.strip s ≠ "" := by simp [Text.strip_eq_empty_iff, hblank]
      have hne : s ≠ "" := by
        rintro rfl
        cases hblank
      have hof : Text.NonBlank.ofString? s = some ⟨s, hblank⟩ := dif_pos hblank
      simp only [Value.truthy, bne_iff_ne, ne_eq, hne, not_false_eq_true, if_true, hstrip,
        dite_false, hof]
      exact .ok _
    | true =>
      have hof : Text.NonBlank.ofString? s = none := dif_neg (by simp [hblank])
      simp only [Text.strip_eq_empty_iff.2 hblank, dite_true, ite_self, hof]
      exact .error rfl rfl
  | _ =>
    -- what is no text is rejected either way: as blank if it is false, else for want of the method
    split
    · next htrue => exact .error rfl (by rw [if_pos htrue]; rfl)
    · next hfalse => exact .error rfl (by rw [if_neg hfalse]; rfl)

theorem reports_decodeKernel (v : Value) : Reports (decodeKernel v) (Blueprint.decodeKernel v) :=
  (reports_getOr v _ _).bind fun _ => (reports_getOr v _ _).bind fun _ => .pure _

theorem reports_decodeTimezone (v : Value) :
    Reports (decodeTimezone v) (Blueprint.decodeTimezone v) :=
  (reports_getOr v _ _).bind fun _ => (reports_itemsAt v _).bind fun _ => .pure _

theorem reports_decodeLocale (v : Value) : Reports (decodeLocale v) (Blueprint.decodeLocale v) :=
  (reports_itemsAt v _).bind fun _ => (reports_getOr v _ _).bind fun _ => .pure _

theorem reports_decodeFirewall (v : Value) :
    Reports (decodeFirewall v) (Blueprint.decodeFirewall v) :=
  (reports_getOr v _ _).bind fun services =>
    (reports_itemsAt v _).bind fun _ => (reports_itemsAt (orEmpty services) _).bind fun _ =>
      (reports_itemsAt (orEmpty services) _).bind fun _ => .pure _

theorem reports_decodeServices (v : Value) :
    Reports (decodeServices v) (Blueprint.decodeServices v) :=
  (reports_itemsAt v _).bind fun _ => (reports_itemsAt v _).bind fun _ =>
    (reports_itemsAt v _).bind fun _ => .pure _

theorem reports_decodeFdo (v : Value) : Reports (decodeFdo v) (Blueprint.decodeFdo v) :=
  (reports_getOr v _ _).bind fun _ => (reports_getOr v _ _).bind fun _ =>
    (reports_getOr v _ _).bind fun _ => (reports_getOr v _ _).bind fun _ => .pure _

theorem reports_decodeOpenscap (v : Value) :
    Reports (decodeOpenscap v) (Blueprint.decodeOpenscap v) :=
  (reports_subscript v _).bind fun _ => (reports_getOr v _ _).bind fun _ => .pure _

theorem reports_decodeIgnition (v : Value) :
    Reports (decodeIgnition v) (Blueprint.decodeIgnition v) :=
  (reports_getOr v _ _).bind fun embedded => (reports_getOr (orEmpty embedded) _ _).bind fun _ =>
    (reports_getOr v _ _).bind fun firstboot =>
      (reports_getOr (orEmpty firstboot) _ _).bind fun _ => .pure _

theorem reports_decodeInstaller (v : Value) :
    Reports (decodeInstaller v) (Blueprint.decodeInstaller v) :=
  (reports_getOr v _ _).bind fun _ => (reports_itemsAt v _).bind fun _ => .pure _

theorem reports_decodeSshKey (v : Value) : Reports (decodeSshKey v) (Blueprint.decodeSshKey v) :=
  (reports_subscript v _).bind fun _ => (reports_subscript v _).bind fun _ => .pure _

theorem reports_decodeUser (v : Value) : Reports (decodeUser v) (Blueprint.decodeUser v) :=
  (reports_subscript v _).bind fun name =>
    (reports_getOr v _ _).bind fun _ => (reports_getOr v _ _).bind fun _ =>
    (reports_getOr v _ _).bind fun _ => (reports_getOr v _ _).bind fun _ =>
    (reports_getOr v _ _).bind fun _ => (reports_itemsAt v _).bind fun _ =>
    (reports_getOr v _ _).bind fun _ => (reports_getOr v _ _).bind fun _ =>
    (reports_decodeName _ name).bind fun _ => .pure _

theorem reports_decodeGroup (v : Value) : Reports (decodeGroup v) (Blueprint.decodeGroup v) :=
  (reports_subscript v _).bind fun name => (reports_getOr v _ _).bind fun _ =>
    (reports_decodeName _ name).bind fun _ => .pure _

/-- A size that was read is not negative, so the second check never rejects it. -/
theorem reports_decodeFilesystem (v : Value) :
    Reports (decodeFilesystem v) (Blueprint.decodeFilesystem v) := by
  refine (reports_subscript v _).bind fun mountpoint => (reports_getOr v _ _).bind fun size => ?_
  cases hsize : parseSize size with
  | error e => exact .error rfl rfl
  | ok n =>
    have hn : FilesystemRequest.ofInt mountpoint n = .ok ⟨mountpoint, n⟩ := by
      simp [FilesystemRequest.ofInt]
    simp only [Except.mapError, Outcome.ok_bind, hn]
    exact .ok _

theorem reports_decodeDirectory (v : Value) :
    Reports (decodeDirectory v) (Blueprint.decodeDirectory v) :=
  (reports_subscript v _).bind fun _ => (reports_getOr v _ _).bind fun _ =>
    (reports_getOr v _ _).bind fun _ => (reports_getOr v _ _).bind fun _ =>
    (reports_getOr v _ _).bind fun _ => .pure _

theorem reports_decodeFile (v : Value) : Reports (decodeFile v) (Blueprint.decodeFile v) := by
  refine (reports_subscript v _).bind fun path => (reports_getOr v _ _).bind fun _ =>
    (reports_getOr v _ _).bind fun _ => (reports_getOr v _ _).bind fun _ =>
    (reports_getOr v _ _).bind fun data => ?_
  simp only
  split
  · exact .pure _
  · unfold length
    cases data.size? with
    | none => exact .error rfl rfl
    | some size =>
      simp only [Option.elim, Outcome.ok_bind]
      split
      · exact .error rfl rfl
      · exact .pure _

theorem reports_decodeSettings (data : Value) :
    Reports (decodeSettings data) (Blueprint.decodeSettings data) :=
  (reports_decodeSection data _ reports_decodeKernel).bind fun _ =>
    (reports_decodeSection data _ reports_decodeTimezone).bind fun _ =>
    (reports_decodeSection data _ reports_decodeLocale).bind fun _ =>
    (reports_decodeSection data _ reports_decodeFirewall).bind fun _ =>
    (reports_decodeSection data _ reports_decodeServices).bind fun _ =>
    (reports_decodeSection data _ reports_decodeFdo).bind fun _ =>
    (reports_decodeSection data _ reports_decodeOpenscap).bind fun _ =>
    (reports_decodeSection data _ reports_decodeIgnition).bind fun _ =>
    (reports_decodeSection data _ reports_decodeInstaller).bind fun _ =>
    (reports_getOr data _ _).bind fun _ =>
    (reports_decodeEntries data _ reports_decodeSshKey).bind fun _ =>
    (reports_decodeEntries data _ reports_decodeUser).bind fun _ =>
    (reports_decodeEntries data _ reports_decodeGroup).bind fun _ =>
    (reports_decodeEntries data _ reports_decodeFilesystem).bind fun _ =>
    (reports_getOr data _ _).bind fun _ =>
    (reports_decodeEntries data _ reports_decodeDirectory).bind fun _ =>
    (reports_decodeEntries data _ reports_decodeFile).bind fun _ =>
    (reports_getOr data _ _).bind fun _ => .pure _

theorem reports_decodePackage (v : Value) :
    Reports (decodePackage v) (Blueprint.decodePackage v) := by
  refine (reports_subscript v _).bind fun name => (reports_getOr v _ _).bind fun version => ?_
  have hmap : Package.ofValues name version =
      Blueprint.decodeName .package name >>= fun name => pure ⟨name, version⟩ := by
    unfold Package.ofValues
    cases Blueprint.decodeName .package name <;> rfl
  rw [hmap]
  exact (reports_decodeName _ name).bind fun _ => .pure _

theorem reports_decodePackages (data : Value) :
    Reports (decodePackages data) (Blueprint.decodePackages data) :=
  (reports_decodeEntries data _ reports_decodePackage).bind fun _ =>
    (reports_decodeEntries data _ reports_decodePackage).bind fun _ =>
    (reports_decodeEntries data _ fun g => reports_subscript g _).bind fun _ => .pure _

/-- An error of the blueprint, as decoding ends with it. -/
def Failure.ofError (e : Error) : Failure := .invalid e.message

/-- A handler around steps that report gives the errors of decoding. -/
theorem handle_of_reports (lead : String) (error : Defect → Error)
    (herror : ∀ d, (error d).message = lead ++ d.message) {x : Except Fault α}
    {y : Except Defect α} (h : Reports x y) :
    handle lead x = (y.mapError error).mapError .ofError := by
  cases h with
  | ok a => rfl
  | @error f d handled text =>
    simp only [handle, Except.mapError, handled, if_true, text, Failure.ofError, herror]

end Reports

theorem text_getD (fields : List (String × Value)) (key : String) :
    ((Assoc.get? fields key).getD "").text = textAt fields key := by
  unfold textAt
  cases Assoc.get? fields key <;> rfl

theorem decodeCustomizations_obj (fields : List (String × Value)) :
    decodeCustomizations (.obj fields) = (customizationsAt fields).mapError .ofError := by
  have hhandle : ∀ v, handle "Invalid blueprint customizations: " (decodeSettings v) =
      (Blueprint.decodeCustomizations v).mapError .ofError := fun v =>
    handle_of_reports _ .customizations (fun _ => rfl) (reports_decodeSettings v)
  unfold decodeCustomizations customizationsAt
  cases hget : Assoc.get? fields "customizations" with
  | none =>
    simp only [getOr, hget]
    rfl
  | some v =>
    have hgetOr : (liftM (getOr (.obj fields) "customizations" .null) : Except Failure Value) =
        .ok v := by simp only [getOr, hget]; rfl
    have hsubscript : (liftM (subscript (.obj fields) "customizations") : Except Failure Value) =
        .ok v := by simp only [subscript, hget]; rfl
    simp only [hgetOr, hsubscript, Outcome.ok_bind, hhandle]
    split
    · rfl
    · cases Blueprint.decodeCustomizations v <;> rfl

/-- Decoding is decoding told operation by operation: its errors are those of the handlers, and no
fault is left unhandled. -/
theorem decode_eq (data : Value) :
    decode data = (Blueprint.decode data).mapError .ofError := by
  cases data with
  | obj fields =>
    have hpackages := handle_of_reports "Invalid blueprint packages: " .packages (fun _ => rfl)
      (reports_decodePackages (.obj fields))
    have hget : ∀ key : String, (liftM (getOr (.obj fields) key "") : Except Failure Value) =
        .ok ((Assoc.get? fields key).getD "") := fun _ => rfl
    unfold decode
    simp only [decode_obj, Outcome.mapError_bind, hpackages, hget, Outcome.ok_bind, text_getD,
      decodeCustomizations_obj]
    rfl
  | _ => rfl

end Faulting

/-- Decoding ends with a blueprint that holds what the document says, or with an error of the
blueprint: told operation by operation, no fault comes out that is not handled. -/
theorem Blueprint.decode_contained (data : Value) :
    (∃ b, decode data = .ok b ∧ Faulting.decode data = .ok b ∧ b.Sound data) ∨
      ∃ e, decode data = .error e ∧ Faulting.decode data = .error (.invalid e.message) := by
  rw [Faulting.decode_eq]
  cases h : decode data with
  | ok b => exact .inl ⟨b, rfl, rfl, sound_decode h⟩
  | error e => exact .inr ⟨e, rfl, rfl⟩

end Imagewright
