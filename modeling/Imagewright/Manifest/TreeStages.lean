import Imagewright.Blueprint.Customizations
import Imagewright.Manifest.Error
import Imagewright.Manifest.Stage
import Imagewright.Packages.Repository

/-!
# Stages of trees

The stages that install packages and apply the customizations of a blueprint to a tree.

## Main definitions

* `Manifest.installStage`, `Manifest.selinuxStage`: packages and labels.
* `Manifest.groupsStage`, `Manifest.usersStage`: accounts.
* `Manifest.nodeStages`: directories and files.
* `Manifest.unitStage?`: units that are enabled, disabled or masked.
* `Manifest.customizationStages`: what a blueprint asks for.
-/
namespace Imagewright.Manifest

open Blueprint (Customizations Directory File FirewallSettings Group User)

def stage (type : String) (options : List (String × Value) := []) : Stage :=
  { type := "org.osbuild." ++ type, options := options }

/-- A field with a list, unless the list is empty. -/
def listField (key : String) (items : List Value) : List (String × Value) :=
  if items.isEmpty then [] else [(key, .list items)]

/-- A field with a value, unless the value is null. -/
def givenField (key : String) (v : Value) : List (String × Value) :=
  if v.isNull then [] else [(key, v)]

/-- The values of a list that equal none before them. `seen` are the values before the list. -/
def distinctFrom (seen : List Value) : List Value → List Value
  | [] => []
  | v :: rest => if v.isIn seen then distinctFrom seen rest else v :: distinctFrom (v :: seen) rest

/-- Each value of a list once, in the order of their first places. -/
def distinct (values : List Value) : List Value := distinctFrom [] values

/-- Installs packages whose signatures are checked with the keys of some repositories. -/
def installStage (repositories : List Repository) : Stage where
  type := Stage.installType
  options := listField "gpgkeys" (distinct (repositories.flatMap (·.gpgKeys)))

/-- Labels a tree for SELinux. Some paths have labels of their own. -/
def selinuxStage (labels : List (String × Value) := []) : Stage :=
  stage "selinux"
    ([("file_contexts", Value.str "etc/selinux/targeted/contexts/files/file_contexts")] ++
      if labels.isEmpty then [] else [("labels", .obj labels)])

def buildRootStages (repositories : List Repository) : List Stage := [
  installStage repositories,
  selinuxStage [("/usr/bin/cp", "system_u:object_r:install_exec_t:s0")]]

def groupEntries (groups : List Group) : Assoc String Value :=
  Assoc.ofList (groups.map fun g => (g.name.text, .obj (givenField "gid" g.gid)))

def groupsStage (c : Customizations) : Stage :=
  stage "groups" [("groups", .obj (groupEntries c.groups))]

/-- The fields of a user account that are given. -/
def userFields (u : User) : List (String × Value) :=
  givenField "description" u.description ++ givenField "password" u.password ++
    givenField "key" u.key ++ givenField "home" u.home ++ givenField "shell" u.shell ++
    givenField "uid" u.uid ++ givenField "gid" u.gid ++ listField "groups" u.groups

/-- The users by name. A key for a user is added to the entry of that user. -/
def userEntries (c : Customizations) : Except Value.Mismatch Entries := do
  let users := c.users.foldl
    (fun entries u => Entries.set entries (.str u.name.text) (userFields u))
    []
  c.sshKeys.foldlM (fun (entries : Entries) k =>
    entries.put k.user (Assoc.set ((entries.get? k.user).getD []) "key" k.key)) users

def usersStage (c : Customizations) : Except Value.Mismatch Stage := do
  return { stage "users" with keyed := [("users", ← userEntries c)] }

/-- Enables, disables and masks units, if any are listed. -/
def unitStage? (enabled : List Value) (disabled masked : List Value := []) : Option Stage :=
  let options := listField "enabled_services" enabled ++ listField "disabled_services" disabled ++
    listField "masked_services" masked
  if options.isEmpty then none else some (stage "systemd" options)

def modeNumber (mode : Value) : Except AssemblyError Int := do
  Text.readInt 8 (← mode.asText)

def directoryEntry (d : Directory) : Except AssemblyError Value := do
  let mode ← if d.mode.isNull then pure [] else do pure [("mode", Value.int (← modeNumber d.mode))]
  return .obj ([("path", d.path)] ++ mode ++
    if d.ensureParents then [("parents", .bool true), ("exist_ok", .bool true)] else [])

def fileEntry (f : File) : Value :=
  .obj [("path", f.path), ("data", if f.data.truthy then f.data else "")]

/-- The owners of a path that are given. -/
def ownerFields (user group : Value) : List (String × Value) :=
  givenField "user" user ++ givenField "group" group

/-- The owners of directories and files, by their paths. Where none is given there is no entry. -/
def ownership (c : Customizations) : Except Value.Mismatch Entries :=
  let owners := c.directories.map (fun d => (d.path, ownerFields d.user d.group)) ++
    c.files.map (fun f => (f.path, ownerFields f.user f.group))
  (owners.filter (!·.2.isEmpty)).foldlM (fun entries o => Entries.put entries o.1 o.2) []

/-- The modes of files that are given, by their paths. -/
def fileModes (c : Customizations) : Except Value.Mismatch Entries :=
  (c.files.filter (!·.mode.isNull)).foldlM
    (fun entries f => Entries.put entries f.path [("mode", f.mode)]) []

/-- A stage with entries, unless there are none. -/
def entriesStage (type : String) (entries : Entries) : List Stage :=
  if entries.isEmpty then [] else [{ stage type with keyed := [("items", entries)] }]

/-- Makes directories, writes files, and sets their owners and modes. -/
def nodeStages (c : Customizations) : Except AssemblyError (List Stage) := do
  let directories ← c.directories.mapM directoryEntry
  let owners ← ownership c
  let modes ← fileModes c
  return (if directories.isEmpty then [] else [stage "mkdir" [("paths", .list directories)]]) ++
    (if c.files.isEmpty then []
      else [stage "inline-files" [("files", .list (c.files.map fileEntry))]]) ++
    entriesStage "chown" owners ++ entriesStage "chmod" modes

def localeStages (c : Customizations) : List Stage :=
  let locale := c.locale.getD {}
  [stage "locale" [("language", locale.languages.headD "C.UTF-8")]] ++
    if locale.keyboard.truthy then [stage "keymap" [("keymap", locale.keyboard)]] else []

def hostnameStages (c : Customizations) : List Stage :=
  if c.hostname.truthy then [stage "hostname" [("hostname", c.hostname)]] else []

def timezoneStages (c : Customizations) : List Stage :=
  let timezone := c.timezone.getD {}
  let zone := if timezone.timezone.truthy then timezone.timezone else "UTC"
  let server (s : Value) : Value := .obj [("hostname", s), ("iburst", .bool true)]
  [stage "timezone" [("zone", zone)]] ++
    if timezone.ntpServers.isEmpty then []
    else [stage "chrony" [("servers", .list (timezone.ntpServers.map server))]]

def accountStages (c : Customizations) : Except Value.Mismatch (List Stage) := do
  let users ← if c.users.isEmpty && c.sshKeys.isEmpty then pure []
    else do pure [← usersStage c]
  return (if c.groups.isEmpty then [] else [groupsStage c]) ++ users

def firewallStage (f : FirewallSettings) : Stage :=
  stage "firewall" (listField "ports" f.ports ++ listField "enabled_services" f.enabledServices ++
    listField "disabled_services" f.disabledServices)

def openscapStages (c : Customizations) : List Stage :=
  match c.openscap with
  | none => []
  | some s =>
    let datastream := if s.datastream.truthy then [("datastream", s.datastream)] else []
    [stage "oscap.remediation" [("config", .obj ([("profile_id", s.profileId)] ++ datastream))]]

/-- What a blueprint asks for, apart from packages, disks and units. -/
def customizationStages (c : Customizations) : Except AssemblyError (List Stage) := do
  let accounts ← accountStages c
  let nodes ← nodeStages c
  return localeStages c ++ hostnameStages c ++ timezoneStages c ++ accounts ++
    (c.firewall.map firewallStage).toList ++ nodes ++ openscapStages c

end Imagewright.Manifest
