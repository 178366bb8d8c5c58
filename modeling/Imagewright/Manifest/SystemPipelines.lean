import Imagewright.Manifest.Context
import Imagewright.Manifest.DiskStages
import Imagewright.Manifest.ExportStages

/-!
# Pipelines of systems

The build root, the trees of operating systems, OSTree commits and their deployments, and the files
that are exported from them.

## Main definitions

* `Manifest.buildPipeline`, `Manifest.osPipeline`: the build root and a tree from packages.
* `Manifest.commitPipeline`, `Manifest.deploymentPipeline`: a commit, and a tree from a commit.
* `Manifest.imagePipeline`, `Manifest.exportPipelines`: a disk image, and other formats of it.
-/
namespace Imagewright.Manifest

open Catalog (BootMode)
open Context (plainPipeline)
open Disk (PartitionTable)

def deploymentName : String := "fedora-iot"

/-- The pipeline of the build root. It has a runner and no build root of its own. -/
def buildPipeline (c : Context) : Pipeline where
  name := buildName
  stages := buildRootStages (c.repositoriesFor buildName)
  runner := some c.target.release.runner
  chain := c.chains.chain buildName

/-- The units of the image type and then those of the blueprint that are not among them. What is
enabled is not disabled. -/
def servicesStage? (c : Context) : Option Stage :=
  let defaults : List Value := c.target.imageType.enabledServices.map .str
  match c.settings.services with
  | none => unitStage? defaults
  | some s =>
    let enabled := defaults ++ distinctFrom defaults s.enabled
    unitStage? enabled (s.disabled.filter (!·.isIn enabled)) s.masked

/-- The stages in a tree that depend on its disk, in front of the customizations. -/
def commandLineStages (t : PartitionTable) (kernelOptions : String) : List Stage :=
  [kernelCommandStage (filesystemUuid t "/") kernelOptions]

/-- The stages in a tree that depend on its disk, behind the customizations. -/
def bootStages (c : Context) (t : PartitionTable) (kernelOptions : String) : List Stage :=
  fstabStage t ::
    bootloaderStages t c.arch c.target.bootMode kernelOptions c.target.release.product

/-- The tree of an operating system from packages. If it is to be committed, it is prepared for
OSTree at last. -/
def osPipeline (c : Context) (committed : Bool := false) : Except AssemblyError Pipeline := do
  let kernelOptions ← c.kernelOptions
  let customizations ← customizationStages c.settings
  let preparation := if committed then
      [stage "ostree.preptree" [("etc_group_members", Value.texts ["wheel", "docker"])]]
    else []
  let (commandLine, boot) := match c.table with
    | some t => (commandLineStages t kernelOptions, bootStages c t kernelOptions)
    | none => ([], [])
  return c.pipeline "os"
    ([installStage (c.repositoriesFor "os")] ++ commandLine ++ customizations ++
      (servicesStage? c).toList ++ boot ++ [selinuxStage] ++ preparation)

def imagePipeline (c : Context) (filename tree : String) : Except AssemblyError Pipeline := do
  let table ← c.diskTable
  return plainPipeline "image" (← imageStages table filename c.arch c.target.bootMode tree)

/-- The pipelines that convert the file `sourceFile` of the pipeline `source` to the format of the
image type. A raw image needs none. -/
def exportPipelines (c : Context) (source sourceFile : String) : List Pipeline :=
  let format := c.target.imageType.exportFormat
  if format == "qcow2" || format == "vpc" || format == "vmdk" then
    [plainPipeline format [qemuStage source sourceFile c.filename format]]
  else if format == "xz" then [plainPipeline "xz" [xzStage source sourceFile c.filename]]
  else if format == "ova" then [
    plainPipeline "vmdk" [qemuStage source sourceFile "image.vmdk" "vmdk"],
    plainPipeline "ovf" [
      { stage "copy" [("paths", .list [copyPath "input://file/image.vmdk" "tree:///"])] with
        inputs := [("file", .file "vmdk" "image.vmdk")] },
      stage "ovf" [("vmdk", "image.vmdk")]],
    plainPipeline "archive" [
      { stage "tar" [
          ("filename", .str c.filename),
          ("format", "ustar"),
          ("paths", Value.texts ["image.ovf", "image.mf", "image.vmdk"])] with
        inputs := [("tree", .tree "ovf")] }]]
  else []

def pullStage (repository ref : String) : Stage :=
  { stage "ostree.pull" [("repo", .str repository)] with
    inputs := [("commits", .sourceCommit ref)] }

def pullFromStage (repository pipeline ref : String) : Stage :=
  { stage "ostree.pull" [("repo", .str repository)] with
    inputs := [("commits", .pipelineCommit pipeline ref)] }

def initStage (repository : String) : Stage := stage "ostree.init" [("path", .str repository)]

/-- The commit of the tree of an operating system, with the source of its parent. A parent is
fetched only if there is a place to fetch it from. -/
def commitPipeline (c : Context) : Except AssemblyError (Pipeline × List OstreeSource) := do
  let ref ← c.ostreeRef
  let options := [("ref", .str ref), ("os_version", .str c.target.release.releasever)]
  let commit (options : List (String × Value)) : Stage :=
    { stage "ostree.commit" options with inputs := [("tree", .tree "os")] }
  match c.options.ostree.filter fun o => o.parent != "" && o.url.truthy with
  | none => return (plainPipeline "ostree-commit" [initStage "/repo", commit options], [])
  | some o =>
    return (plainPipeline "ostree-commit" [
        initStage "/repo",
        pullStage "/repo" o.parent,
        commit (options ++ [("parent", .str o.parent)])],
      [{ url := o.url, ref := o.parent }])

def deployStages (ref : String) (remoteUrl : Value) (kernelOptions : String) : List Stage :=
  let repo := ("repo", Value.str "/ostree/repo")
  let deployment := ("deployment", Value.obj [("osname", .str deploymentName), ("ref", .str ref)])
  [ stage "ostree.init-fs",
    pullStage "/ostree/repo" ref,
    stage "ostree.os-init" [("osname", .str deploymentName)],
    stage "ostree.config" [
      repo,
      ("config", .obj [("sysroot", .obj [("readonly", .bool true), ("bootloader", "none")])])],
    stage "mkdir" [("paths", .list [.obj [("path", "/boot/efi"), ("mode", .int 0o700)]])],
    stage "ostree.deploy" [
      ("osname", .str deploymentName),
      ("ref", .str ref),
      ("remote", .str deploymentName),
      ("mounts", Value.texts ["/boot", "/boot/efi"]),
      ("rootfs", .obj [("label", "root")]),
      ("kernel_opts", Value.texts (Text.words kernelOptions))],
    stage "ostree.remotes" [
      repo,
      ("remotes", .list [.obj [("name", .str deploymentName), ("url", remoteUrl)]])],
    stage "ostree.fillvar" [deployment]]

/-- The tree of an operating system from a commit. -/
def deploymentPipeline (c : Context) : Except AssemblyError Pipeline := do
  let ref ← c.ostreeRef
  let o ← c.ostree
  let kernelOptions ← c.kernelOptions
  let users ← if c.settings.users.isEmpty then pure [] else do pure [← usersStage c.settings]
  let nodes ← nodeStages c.settings
  let table ← c.diskTable
  return plainPipeline "ostree-deployment"
    (deployStages ref (if o.contentUrl.truthy then o.contentUrl else o.url) kernelOptions ++
      (if c.settings.groups.isEmpty then [] else [groupsStage c.settings]) ++ users ++ nodes ++
      (servicesStage? c).toList ++ [fstabStage table] ++
      bootloaderStages table c.arch .uefi "" c.target.release.product ++
      [stage "ostree.selinux" [
        ("deployment", .obj [("osname", .str deploymentName), ("ref", .str ref)])]])

end Imagewright.Manifest
