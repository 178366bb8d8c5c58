import Imagewright.Blueprint.Basic

/-!
# Outlines of blueprints

An outline shows a blueprint with every field, also those that hold a default. What is not there is
null.

## Main definitions

* `Blueprint.Customizations.outline`: the outline of customizations.
* `Blueprint.outline`: the outline of a blueprint.
-/
namespace Imagewright.Blueprint

/-- The outline of a part, null if the part is not there. -/
def outlineOf {α : Type} (part : Option α) (outline : α → List (String × Value)) : Value :=
  (part.map fun a => Value.obj (outline a)).getD .null

def outlinesOf {α : Type} (parts : List α) (outline : α → List (String × Value)) : Value :=
  .list (parts.map fun a => .obj (outline a))

def User.outline (u : User) : List (String × Value) := [
  ("name", .str u.name.text),
  ("description", u.description),
  ("password", u.password),
  ("key", u.key),
  ("home", u.home),
  ("shell", u.shell),
  ("groups", .list u.groups),
  ("uid", u.uid),
  ("gid", u.gid)]

def FirewallSettings.outline (f : FirewallSettings) : List (String × Value) := [
  ("ports", .list f.ports),
  ("enabled_services", .list f.enabledServices),
  ("disabled_services", .list f.disabledServices)]

def ServiceSettings.outline (s : ServiceSettings) : List (String × Value) := [
  ("enabled", .list s.enabled),
  ("disabled", .list s.disabled),
  ("masked", .list s.masked)]

def FdoSettings.outline (f : FdoSettings) : List (String × Value) := [
  ("manufacturing_server_url", f.manufacturingServerUrl),
  ("diun_pub_key_insecure", .bool f.diunPubKeyInsecure),
  ("diun_pub_key_hash", f.diunPubKeyHash),
  ("diun_pub_key_root_certs", f.diunPubKeyRootCerts)]

def Directory.outline (d : Directory) : List (String × Value) := [
  ("path", d.path),
  ("user", d.user),
  ("group", d.group),
  ("mode", d.mode),
  ("ensure_parents", .bool d.ensureParents)]

def File.outline (f : File) : List (String × Value) := [
  ("path", f.path),
  ("user", f.user),
  ("group", f.group),
  ("mode", f.mode),
  ("data", f.data)]

def Customizations.outline (c : Customizations) : Value :=
  .obj [
    ("hostname", c.hostname),
    ("kernel", outlineOf c.kernel fun k => [("name", k.name), ("append", k.append)]),
    ("ssh_keys", outlinesOf c.sshKeys fun k => [("user", k.user), ("key", k.key)]),
    ("users", outlinesOf c.users User.outline),
    ("groups", outlinesOf c.groups fun g => [("name", .str g.name.text), ("gid", g.gid)]),
    ("timezone", outlineOf c.timezone fun t =>
      [("timezone", t.timezone), ("ntp_servers", .list t.ntpServers)]),
    ("locale", outlineOf c.locale fun l =>
      [("languages", .list l.languages), ("keyboard", l.keyboard)]),
    ("firewall", outlineOf c.firewall FirewallSettings.outline),
    ("services", outlineOf c.services ServiceSettings.outline),
    ("filesystem", outlinesOf c.filesystem fun f =>
      [("mountpoint", f.mountpoint), ("min_size", .int f.minSize)]),
    ("installation_device", c.installationDevice),
    ("fdo", outlineOf c.fdo FdoSettings.outline),
    ("openscap", outlineOf c.openscap fun s =>
      [("profile_id", s.profileId), ("datastream", s.datastream)]),
    ("ignition", outlineOf c.ignition fun s =>
      [("embedded_config", s.embeddedConfig), ("firstboot_url", s.firstbootUrl)]),
    ("directories", outlinesOf c.directories Directory.outline),
    ("files", outlinesOf c.files File.outline),
    ("fips", c.fips),
    ("installer", outlineOf c.installer fun s =>
      [("unattended", .bool s.unattended), ("sudo_nopasswd", .list s.sudoNopasswd)])]

end Blueprint

/-- The outline of a blueprint: its summary, its packages, its customizations, and what follows from
these for the kernel, the services and device onboarding. -/
def Blueprint.outline (b : Blueprint) : Value :=
  .obj [
    ("summary", b.summary),
    ("specs", .list b.specs),
    ("customizations", (b.customizations.map (·.outline)).getD .null),
    ("kernel_name", b.settings.kernelName),
    ("kernel_append", b.settings.kernelAppend),
    ("services_empty", (b.settings.services.map fun s => Value.bool s.isEmpty).getD .null),
    ("diun_options", (b.settings.fdo.map fun f => Value.int f.diunOptions).getD .null)]

end Imagewright
