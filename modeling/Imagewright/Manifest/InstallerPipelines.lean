import Imagewright.Manifest.SystemPipelines

/-!
# Pipelines of installers

The trees that an installer boots into, and the ISO image that holds them.

## Main definitions

* `Manifest.anacondaPipeline`, `Manifest.coreosPipeline`: the environments of installers.
* `Manifest.efibootPipeline`, `Manifest.isoTreePipeline`, `Manifest.isoPipeline`: the ISO image.
* `Manifest.simplifiedKernelOptions`: the settings of a simplified installer.
-/
namespace Imagewright.Manifest

open Blueprint (Customizations FdoSettings)
open Context (plainPipeline)

def installerAccounts : Value :=
  .obj [
    ("root", .obj [("password", "")]),
    ("install", .obj [
      ("uid", .int 0),
      ("gid", .int 0),
      ("home", "/root"),
      ("shell", "/usr/libexec/anaconda/run-anaconda"),
      ("password", "")])]

/-- What sets a live system apart from an installer. -/
def sessionStages (live : Bool) : List Stage :=
  if live then [stage "systemd" [("enabled_services", Value.texts ["livesys.service"])]]
  else [
    stage "users" [("users", installerAccounts)],
    stage "anaconda" [
      ("kickstart-modules", Value.texts ["org.fedoraproject.Anaconda.Modules.Users"])]]

def anacondaPipeline (c : Context) (live : Bool := false) : Pipeline :=
  let release := c.target.release
  c.pipeline "anaconda-tree" (
    [ installStage (c.repositoriesFor "anaconda-tree"),
      stage "buildstamp" [
        ("arch", .str c.arch),
        ("product", .str release.product),
        ("version", .str release.releasever),
        ("final", .bool true),
        ("variant", ""),
        ("bugurl", "")],
      stage "locale" [("language", "en_US.UTF-8")]] ++
    sessionStages live ++
    [ stage "lorax-script" [
        ("path", "99-generic/runtime-postinstall.tmpl"), ("basearch", .str c.arch)],
      stage "dracut" [
        ("modules", Value.texts ["anaconda", "dmsquash-live", "livenet", "qemu", "rdma"])],
      selinuxStage])

def coreosPipeline (c : Context) : Pipeline :=
  c.pipeline "coi-tree" [
    installStage (c.repositoriesFor "coi-tree"),
    stage "locale" [("language", "en_US.UTF-8")],
    stage "systemd" [("enabled_services", Value.texts ["coreos-installer.service"])],
    stage "dracut" [("modules", Value.texts ["coreos-installer", "fdo", "ignition"])],
    selinuxStage]

def efiArchName (arch : String) : String :=
  if arch == "x86_64" then "X64" else if arch == "aarch64" then "AA64" else Text.upper arch

def efibootPipeline (c : Context) (kernelOptions : List String) : Pipeline :=
  let release := c.target.release
  plainPipeline "efiboot-tree" [
    stage "grub2.iso" [
      ("product", .obj [("name", .str release.product), ("version", .str release.releasever)]),
      ("kernel", .obj [("dir", "/images/pxeboot"), ("opts", Value.texts kernelOptions)]),
      ("isolabel", .str c.isoLabel),
      ("architectures", Value.texts [efiArchName c.arch]),
      ("vendor", .str (Text.lower release.product))]]

/-- The tree of an ISO image, with a compressed tree inside and further stages at its end. -/
def isoTreePipeline (c : Context) (compressed : String) (extra : List Stage) : Pipeline :=
  let release := c.target.release
  plainPipeline "bootiso-tree" (
    [ { stage "squashfs" [
          ("filename", "images/install.img"), ("compression", .obj [("method", "lz4")])] with
        inputs := [("tree", .tree compressed)] },
      { stage "copy" [("paths", .list [copyPath "input://tree/EFI" "tree:///EFI"])] with
        inputs := [("tree", .tree "efiboot-tree")] },
      stage "discinfo" [
        ("basearch", .str c.arch),
        ("release", .str s!"{release.product} {release.releasever}")]] ++
    extra)

def isoPipeline (c : Context) : Pipeline :=
  let hybrid : List (String × Value) :=
    if c.arch == "x86_64" then [("isohybridmbr", "/usr/share/syslinux/isohdpfx.bin")] else []
  plainPipeline "bootiso" [
    { stage "xorrisofs" (
        ("filename", .str c.filename) :: ("volid", .str c.isoLabel) ::
        ("efi", "images/efiboot.img") :: hybrid) with
      inputs := [("tree", .tree "bootiso-tree")] },
    stage "implantisomd5" [("filename", .str c.filename)]]

/-- The kernel options of an installer, which tell it where it is. -/
def installerKernelOptions (c : Context) : List String := [
  s!"inst.stage2=hd:LABEL={c.isoLabel}",
  s!"inst.ks=hd:LABEL={c.isoLabel}:/osbuild.ks"]

def liveKernelOptions (c : Context) : List String :=
  [s!"root=live:CDLABEL={c.isoLabel}", "rd.live.image", "quiet", "rhgb"]

def kickstartStage (c : Customizations) (options : List (String × Value)) :
    Except Value.Mismatch Stage := do
  let users ← if c.users.isEmpty then pure [] else do pure [("users", ← userEntries c)]
  let groups := if c.groups.isEmpty then [] else [("groups", .obj (groupEntries c.groups))]
  return { stage "kickstart" (options ++ groups) with keyed := users }

def textOption (name : String) (v : Value) : Except Value.Mismatch String := do
  return name ++ (← v.asText)

/-- An option with a text for its value, unless the value is false. -/
def optionalTextOption (name : String) (v : Value) : Except Value.Mismatch (List String) := do
  if v.truthy then return [← textOption name v] else return []

def onboardingOptions (fdo : FdoSettings) : Except Value.Mismatch (List String) := do
  let server ← textOption "fdo.manufacturing_server_url=" fdo.manufacturingServerUrl
  let hash ← optionalTextOption "fdo.diun_pub_key_hash=" fdo.diunPubKeyHash
  return [server] ++
    (if fdo.diunPubKeyInsecure then ["fdo.diun_pub_key_insecure=true"] else []) ++ hash ++
    if fdo.diunPubKeyRootCerts.truthy then
      ["fdo.diun_pub_key_root_certs=/fdo_diun_pub_key_root_certs.pem"]
    else []

/-- The kernel options of a simplified installer: where to install which image, how to onboard,
where the provisioning comes from, and those of the image. -/
def simplifiedKernelOptions (c : Context) (imageFile : String) :
    Except AssemblyError (List String) := do
  let device ← textOption "coreos.inst.install_dev=" c.settings.installationDevice
  let onboarding ← match c.settings.fdo with
    | some fdo => do pure (← onboardingOptions fdo)
    | none => pure []
  let provisioning ← match c.settings.ignition with
    | some s => do pure (← optionalTextOption "ignition.config.url=" s.firstbootUrl)
    | none => pure []
  let kernelOptions ← c.kernelOptions
  return [
    "rd.neednet=1",
    "coreos.inst.crypt_root=1",
    "coreos.inst.isoroot=" ++ c.isoLabel,
    device,
    "coreos.inst.image_file=/run/media/iso/" ++ imageFile,
    "coreos.inst.insecure"] ++ onboarding ++ provisioning ++ Text.words kernelOptions

/-- Puts the compressed image and the provisioning of a simplified installer into its ISO image. -/
def simplifiedExtraStages (c : Context) (imageFile : String) : List Stage :=
  [{ stage "copy" [("paths", .list [copyPath ("input://file/" ++ imageFile)
      ("tree:///" ++ imageFile)])] with
    inputs := [("file", .file "xz" imageFile)] }] ++
  match c.settings.ignition.filter (·.embeddedConfig.truthy) with
  | some s => [stage "inline-files" [
      ("files", .list [.obj [("path", "/ignition_config"), ("data", s.embeddedConfig)]])]]
  | none => []

end Imagewright.Manifest
