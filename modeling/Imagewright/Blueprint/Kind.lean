/-!
# Kinds of customizations

## Main definitions

* `Blueprint.Kind`: what a customization is about.
* `Blueprint.Kind.all`: all kinds in the order in which they are reported.
* `Blueprint.Kind.name`: the name of a kind in messages.
-/
namespace Imagewright.Blueprint

/-- What a customization is about. -/
inductive Kind where
  | hostname
  | kernel
  | sshKey
  | user
  | group
  | timezone
  | locale
  | firewall
  | services
  | filesystem
  | installationDevice
  | fdo
  | openscap
  | ignition
  | directories
  | files
  | fips
  | installer
deriving DecidableEq, Repr

namespace Kind

/-- All kinds, in the order in which they are reported. -/
def all : List Kind := [
  .hostname, .kernel, .sshKey, .user, .group, .timezone, .locale, .firewall, .services, .filesystem,
  .installationDevice, .fdo, .openscap, .ignition, .directories, .files, .fips, .installer]

def name : Kind → String
  | .hostname => "Hostname"
  | .kernel => "Kernel"
  | .sshKey => "SSHKey"
  | .user => "User"
  | .group => "Group"
  | .timezone => "Timezone"
  | .locale => "Locale"
  | .firewall => "Firewall"
  | .services => "Services"
  | .filesystem => "Filesystem"
  | .installationDevice => "InstallationDevice"
  | .fdo => "FDO"
  | .openscap => "OpenSCAP"
  | .ignition => "Ignition"
  | .directories => "Directories"
  | .files => "Files"
  | .fips => "FIPS"
  | .installer => "Installer"

def ofName? (name : String) : Option Kind := all.find? (·.name == name)

theorem mem_all (k : Kind) : k ∈ all := by cases k <;> decide

end Kind
end Imagewright.Blueprint
