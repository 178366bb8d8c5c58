import Imagewright.Blueprint.Kind
import Imagewright.Text.NonBlank
import Imagewright.Value.Basic

/-!
# Customizations

What a blueprint asks for besides packages. Most settings are carried along as the values that the
document holds; what they must be is checked when an image is built.

## Main definitions

* `Blueprint.Customizations`: all customizations of a blueprint.
* `Blueprint.Customizations.presentKinds`: the kinds that a blueprint uses.
-/
namespace Imagewright.Blueprint

/-- A mountpoint with its least size in bytes. -/
structure FilesystemRequest where
  mountpoint : Value
  minSize : Nat
deriving Inhabited

/-- The kernel package and further boot parameters. -/
structure KernelSettings where
  name : Value := ""
  append : Value := ""

/-- A key for a user who is there already. -/
structure SshKey where
  user : Value
  key : Value

structure User where
  name : Text.NonBlank
  description : Value := .null
  password : Value := .null
  key : Value := .null
  home : Value := .null
  shell : Value := .null
  groups : List Value := []
  uid : Value := .null
  gid : Value := .null

structure Group where
  name : Text.NonBlank
  gid : Value := .null

structure TimezoneSettings where
  timezone : Value := .null
  ntpServers : List Value := []

structure LocaleSettings where
  languages : List Value := []
  keyboard : Value := .null

structure FirewallSettings where
  ports : List Value := []
  enabledServices : List Value := []
  disabledServices : List Value := []

/-- Units to enable, disable or mask. -/
structure ServiceSettings where
  enabled : List Value := []
  disabled : List Value := []
  masked : List Value := []

def ServiceSettings.isEmpty (s : ServiceSettings) : Bool :=
  s.enabled.isEmpty && s.disabled.isEmpty && s.masked.isEmpty

/-- Device onboarding of simplified installers. -/
structure FdoSettings where
  manufacturingServerUrl : Value := ""
  diunPubKeyInsecure : Bool := false
  diunPubKeyHash : Value := ""
  diunPubKeyRootCerts : Value := ""

def FdoSettings.diunOptions (f : FdoSettings) : Nat :=
  [f.diunPubKeyInsecure, f.diunPubKeyHash.truthy, f.diunPubKeyRootCerts.truthy].countP id

/-- Provisioning by an embedded configuration or one that is fetched on the first boot. -/
structure IgnitionSettings where
  embeddedConfig : Value := ""
  firstbootUrl : Value := ""

structure OpenscapSettings where
  profileId : Value
  datastream : Value := ""

structure InstallerSettings where
  unattended : Bool := false
  sudoNopasswd : List Value := []

structure Directory where
  path : Value
  user : Value := .null
  group : Value := .null
  mode : Value := .null
  ensureParents : Bool := false

structure File where
  path : Value
  user : Value := .null
  group : Value := .null
  mode : Value := .null
  data : Value := .null

/-- The characters that the content of a file may have. -/
def File.maxDataLength : Nat := 512 * 1024

/-- All customizations of a blueprint. What is null, empty or none is not asked for. -/
structure Customizations where
  hostname : Value := .null
  kernel : Option KernelSettings := none
  sshKeys : List SshKey := []
  users : List User := []
  groups : List Group := []
  timezone : Option TimezoneSettings := none
  locale : Option LocaleSettings := none
  firewall : Option FirewallSettings := none
  services : Option ServiceSettings := none
  filesystem : List FilesystemRequest := []
  installationDevice : Value := ""
  fdo : Option FdoSettings := none
  openscap : Option OpenscapSettings := none
  ignition : Option IgnitionSettings := none
  directories : List Directory := []
  files : List File := []
  fips : Value := .null
  installer : Option InstallerSettings := none

namespace Customizations

def uses (c : Customizations) : Kind → Bool
  | .hostname => !c.hostname.isNull
  | .kernel => c.kernel.isSome
  | .sshKey => !c.sshKeys.isEmpty
  | .user => !c.users.isEmpty
  | .group => !c.groups.isEmpty
  | .timezone => c.timezone.isSome
  | .locale => c.locale.isSome
  | .firewall => c.firewall.isSome
  | .services => c.services.isSome
  | .filesystem => !c.filesystem.isEmpty
  | .installationDevice => c.installationDevice.truthy
  | .fdo => c.fdo.isSome
  | .openscap => c.openscap.isSome
  | .ignition => c.ignition.isSome
  | .directories => !c.directories.isEmpty
  | .files => !c.files.isEmpty
  | .fips => !c.fips.isNull
  | .installer => c.installer.isSome

/-- The kinds that a blueprint uses, in their order. -/
def presentKinds (c : Customizations) : List Kind := Kind.all.filter c.uses

/-- The further boot parameters, an empty text if there are none. -/
def kernelAppend (c : Customizations) : Value := (c.kernel.map (·.append)).getD ""

/-- The kernel package, an empty text if none is asked for. -/
def kernelName (c : Customizations) : Value := (c.kernel.map (·.name)).getD ""

end Customizations
end Imagewright.Blueprint
