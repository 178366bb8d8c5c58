import Imagewright.Blueprint.Basic

/-!
# Decoding blueprints

A blueprint from the value of its document. Sections that are null are as if they were not there.
Parts are decoded in a fixed order, and the first defect is reported.

## Main definitions

* `Blueprint.decode`: the blueprint that a value denotes.
* `Blueprint.decodeCustomizations`: the customizations that a value denotes.
-/
namespace Imagewright.Blueprint

/-- Why a value is no blueprint. -/
inductive Error where
  | notMapping
  | packages (d : Defect)
  | customizations (d : Defect)

def Error.message : Error → String
  | .notMapping => "Blueprint must be a mapping"
  | .packages d => "Invalid blueprint packages: " ++ d.message
  | .customizations d => "Invalid blueprint customizations: " ++ d.message

/-- A section of the customizations, unless it is not there or null. -/
def decodeSection {α : Type} (data : Value) (key : String) (decode : Value → Except Defect α) :
    Except Defect (Option α) := do
  let section_ ← data.getD key .null
  if section_.isNull then return none else return some (← decode section_)

def decodeEntries {α : Type} (data : Value) (key : String) (decode : Value → Except Defect α) :
    Except Defect (List α) := do
  (← data.itemsAt key).mapM decode

/-- A value that counts as an empty object if it is false. -/
def orEmpty (v : Value) : Value := if v.truthy then v else .obj []

def decodeKernel (v : Value) : Except Defect KernelSettings := do
  return { name := ← v.getD "name" "", append := ← v.getD "append" "" }

def decodeTimezone (v : Value) : Except Defect TimezoneSettings := do
  return { timezone := ← v.getD "timezone" .null, ntpServers := ← v.itemsAt "ntpservers" }

def decodeLocale (v : Value) : Except Defect LocaleSettings := do
  return { languages := ← v.itemsAt "languages", keyboard := ← v.getD "keyboard" .null }

def decodeFirewall (v : Value) : Except Defect FirewallSettings := do
  let services := orEmpty (← v.getD "services" .null)
  return {
    ports := ← v.itemsAt "ports"
    enabledServices := ← services.itemsAt "enabled"
    disabledServices := ← services.itemsAt "disabled" }

def decodeServices (v : Value) : Except Defect ServiceSettings := do
  return {
    enabled := ← v.itemsAt "enabled"
    disabled := ← v.itemsAt "disabled"
    masked := ← v.itemsAt "masked" }

def decodeFdo (v : Value) : Except Defect FdoSettings := do
  return {
    manufacturingServerUrl := ← v.getD "manufacturing_server_url" ""
    diunPubKeyInsecure := (← v.getD "diun_pub_key_insecure" (.bool false)).truthy
    diunPubKeyHash := ← v.getD "diun_pub_key_hash" ""
    diunPubKeyRootCerts := ← v.getD "diun_pub_key_root_certs" "" }

def decodeOpenscap (v : Value) : Except Defect OpenscapSettings := do
  return { profileId := ← v.field "profile_id", datastream := ← v.getD "datastream" "" }

def decodeIgnition (v : Value) : Except Defect IgnitionSettings := do
  return {
    embeddedConfig := ← (orEmpty (← v.getD "embedded" .null)).getD "config" ""
    firstbootUrl := ← (orEmpty (← v.getD "firstboot" .null)).getD "url" "" }

def decodeInstaller (v : Value) : Except Defect InstallerSettings := do
  return {
    unattended := (← v.getD "unattended" (.bool false)).truthy
    sudoNopasswd := ← v.itemsAt "sudo-nopasswd" }

def decodeSshKey (v : Value) : Except Defect SshKey := do
  return { user := ← v.field "user", key := ← v.field "key" }

def decodeUser (v : Value) : Except Defect User := do
  let name ← v.field "name"
  let description ← v.getD "description" .null
  let password ← v.getD "password" .null
  let key ← v.getD "key" .null
  let home ← v.getD "home" .null
  let shell ← v.getD "shell" .null
  let groups ← v.itemsAt "groups"
  let uid ← v.getD "uid" .null
  let gid ← v.getD "gid" .null
  let name ← decodeName .user name
  return { name, description, password, key, home, shell, groups, uid, gid }

def decodeGroup (v : Value) : Except Defect Group := do
  let name ← v.field "name"
  let gid ← v.getD "gid" .null
  return { name := ← decodeName .group name, gid }

/-- A mountpoint with its least size. -/
def decodeFilesystem (v : Value) : Except Defect FilesystemRequest := do
  let mountpoint ← v.field "mountpoint"
  let size ← v.getD "minsize" (.int 0)
  return { mountpoint, minSize := ← parseSize size }

/-- A mountpoint with a least size that may be negative. -/
def FilesystemRequest.ofInt (mountpoint : Value) (minSize : Int) :
    Except Defect FilesystemRequest :=
  if minSize < 0 then .error (.negativeMinimum mountpoint) else .ok ⟨mountpoint, minSize.toNat⟩

def decodeDirectory (v : Value) : Except Defect Directory := do
  return {
    path := ← v.field "path"
    user := ← v.getD "user" .null
    group := ← v.getD "group" .null
    mode := ← v.getD "mode" .null
    ensureParents := (← v.getD "ensure_parents" (.bool false)).truthy }

/-- A file of the image tree. Its content is not too long. -/
def decodeFile (v : Value) : Except Defect File := do
  let file : File := {
    path := ← v.field "path"
    user := ← v.getD "user" .null
    group := ← v.getD "group" .null
    mode := ← v.getD "mode" .null
    data := ← v.getD "data" .null }
  if file.data.isNull then return file
  else
    match file.data.size? with
    | none => throw (.mismatch .wrongType)
    | some size => if File.maxDataLength < size then throw (.dataTooLong file.path) else return file

/-- The customizations that a value denotes, or the first defect. -/
def decodeSettings (data : Value) : Except Defect Customizations := do
  let kernel ← decodeSection data "kernel" decodeKernel
  let timezone ← decodeSection data "timezone" decodeTimezone
  let locale ← decodeSection data "locale" decodeLocale
  let firewall ← decodeSection data "firewall" decodeFirewall
  let services ← decodeSection data "services" decodeServices
  let fdo ← decodeSection data "fdo" decodeFdo
  let openscap ← decodeSection data "openscap" decodeOpenscap
  let ignition ← decodeSection data "ignition" decodeIgnition
  let installer ← decodeSection data "installer" decodeInstaller
  let hostname ← data.getD "hostname" .null
  let sshKeys ← decodeEntries data "sshkey" decodeSshKey
  let users ← decodeEntries data "user" decodeUser
  let groups ← decodeEntries data "group" decodeGroup
  let filesystem ← decodeEntries data "filesystem" decodeFilesystem
  let installationDevice ← data.getD "installation_device" ""
  let directories ← decodeEntries data "directories" decodeDirectory
  let files ← decodeEntries data "files" decodeFile
  let fips ← data.getD "fips" .null
  return {
    hostname, kernel, sshKeys, users, groups, timezone, locale, firewall, services, filesystem
    installationDevice, fdo, openscap, ignition, directories, files, fips, installer }

def decodeCustomizations (data : Value) : Except Error Customizations :=
  (decodeSettings data).mapError .customizations

def decodePackage (v : Value) : Except Defect Package := do
  let name ← v.field "name"
  let version ← v.getD "version" ""
  Package.ofValues name version

/-- The packages, module streams and package groups that a value denotes. -/
def decodePackages (data : Value) : Except Defect (List Package × List Package × List Value) := do
  let packages ← decodeEntries data "packages" decodePackage
  let modules ← decodeEntries data "modules" decodePackage
  let groups ← decodeEntries data "groups" fun g => do return ← g.field "name"
  return (packages, modules, groups)

/-- The text of a field of an object, an empty one if the object does not have it. -/
def textAt (fields : List (String × Value)) (key : String) : String :=
  ((Assoc.get? fields key).map (·.text)).getD ""

def decode (data : Value) : Except Error Blueprint := do
  match data with
  | .obj fields =>
    let (packages, modules, groups) ← (decodePackages data).mapError .packages
    let customizations ← match Assoc.get? fields "customizations" with
      | none | some .null => pure none
      | some v => (decodeCustomizations v).map some
    return {
      name := textAt fields "name"
      description := textAt fields "description"
      version := textAt fields "version"
      packages, modules, groups, customizations }
  | _ => throw .notMapping

end Imagewright.Blueprint
