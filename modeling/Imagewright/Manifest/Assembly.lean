import Imagewright.Manifest.InstallerPipelines
import Imagewright.Random.Twister
import Imagewright.Request.Validation

/-!
# Assembling manifests

Each family of image types has its own pipelines.

## Main definitions

* `Manifest.assemble`: the pipelines of a family.
* `Manifest.buildFor`, `Manifest.build`: the manifest of a request that has been validated, with the
  tag of the request in errors and without it.
* `Manifest.ofRequestFor`, `Manifest.ofRequest`: validates a request and builds its manifest.
-/
namespace Imagewright.Manifest

open Catalog (Target)
open Context (plainPipeline)
open Disk (MountpointPolicy PartitionTable)
open Request (Options Rejection Warning)

/-- A disk with an operating system from packages. -/
def diskManifest (c : Context) : Except AssemblyError Manifest := do
  let file := if c.target.imageType.exportFormat == "raw" then c.filename else "disk.raw"
  return {
    pipelines :=
      [buildPipeline c, ← osPipeline c, ← imagePipeline c file "os"] ++
        exportPipelines c "image" file }

/-- A container or an archive with an operating system from packages. -/
def containerManifest (c : Context) : Except AssemblyError Manifest := do
  let exported :=
    if c.target.imageType.exportFormat == "archive" then
      plainPipeline "archive" [tarStage "os" c.filename]
    else plainPipeline "container" [ociArchiveStage "os" c.filename c.arch ["/bin/bash"]]
  return { pipelines := [buildPipeline c, ← osPipeline c, exported] }

def commitManifest (c : Context) : Except AssemblyError Manifest := do
  let (commit, sources) ← commitPipeline c
  return {
    pipelines := [
      buildPipeline c, ← osPipeline c true, commit,
      plainPipeline "commit-archive" [tarStage "ostree-commit" c.filename]]
    ostreeSources := sources }

/-- Where the web server of a container keeps the commit. -/
def servedRepository : String := "/usr/share/nginx/html/repo"

def commitContainerManifest (c : Context) : Except AssemblyError Manifest := do
  let (commit, sources) ← commitPipeline c
  let ref ← c.ostreeRef
  let served := c.pipeline "container-tree" [
    installStage (c.repositoriesFor "container-tree"),
    selinuxStage,
    initStage servedRepository,
    pullFromStage servedRepository "ostree-commit" ref,
    stage "nginxconf" [("path", "/etc/nginx.conf"), ("config", .obj [("listen", "8080")])]]
  let container := plainPipeline "container" [
    ociArchiveStage "container-tree" c.filename c.arch ["nginx", "-c", "/etc/nginx.conf"]]
  return {
    pipelines := [buildPipeline c, ← osPipeline c true, commit, served, container]
    ostreeSources := sources }

/-- A disk with an operating system from a commit. -/
def deployedDiskManifest (c : Context) : Except AssemblyError Manifest := do
  let deployment ← deploymentPipeline c
  let image ← imagePipeline c "image.raw" "ostree-deployment"
  return {
    pipelines := [buildPipeline c, deployment, image] ++ exportPipelines c "image" "image.raw"
    ostreeSources := [← c.commitSource] }

def imageInstallerManifest (c : Context) : Except AssemblyError Manifest := do
  let kickstart ← kickstartStage c.settings [
    ("path", Value.str "/osbuild.ks"),
    ("liveimg", .obj [("url", "file:///run/install/repo/liveimg.tar.gz")])]
  return {
    pipelines := [
      buildPipeline c, anacondaPipeline c, ← osPipeline c,
      efibootPipeline c (installerKernelOptions c),
      isoTreePipeline c "anaconda-tree" [
        tarStage "os" "liveimg.tar.gz", kickstart],
      isoPipeline c] }

/-- A live system that can install itself. -/
def liveInstallerManifest (c : Context) : Manifest where
  pipelines := [
    buildPipeline c, anacondaPipeline c true, efibootPipeline c (liveKernelOptions c),
    isoTreePipeline c "anaconda-tree" [], isoPipeline c]

/-- An installer that carries an operating system from a commit. -/
def commitInstallerManifest (c : Context) : Except AssemblyError Manifest := do
  let ref ← c.ostreeRef
  let kickstart ← kickstartStage c.settings [
    ("path", Value.str "/osbuild.ks"),
    ("ostree", .obj [
      ("osname", .str deploymentName),
      ("url", "file:///ostree/repo"),
      ("ref", .str ref),
      ("remote", .str deploymentName),
      ("gpg", .bool false)])]
  return {
    pipelines := [
      buildPipeline c, anacondaPipeline c, efibootPipeline c (installerKernelOptions c),
      isoTreePipeline c "anaconda-tree" [
        initStage "/ostree/repo", pullStage "/ostree/repo" ref,
        kickstart],
      isoPipeline c]
    ostreeSources := [← c.commitSource] }

/-- An installer that writes a disk from a commit without asking. -/
def simplifiedInstallerManifest (c : Context) : Except AssemblyError Manifest := do
  let kernelOptions ← simplifiedKernelOptions c "image.raw.xz"
  let deployment ← deploymentPipeline c
  let image ← imagePipeline c "image.raw" "ostree-deployment"
  return {
    pipelines := [
      buildPipeline c, deployment, image,
      plainPipeline "xz" [xzStage "image" "image.raw" "image.raw.xz"],
      coreosPipeline c, efibootPipeline c kernelOptions,
      isoTreePipeline c "coi-tree" (simplifiedExtraStages c "image.raw.xz"), isoPipeline c]
    ostreeSources := [← c.commitSource] }

/-- The manifest of a request, by the family of its image type. -/
def assemble (c : Context) : Except AssemblyError Manifest :=
  match c.target.family with
  | .disk => diskManifest c
  | .container => containerManifest c
  | .ostreeCommit => commitManifest c
  | .ostreeContainer => commitContainerManifest c
  | .ostreeDisk => deployedDiskManifest c
  | .imageInstaller => imageInstallerManifest c
  | .liveInstaller => .ok (liveInstallerManifest c)
  | .ostreeInstaller => commitInstallerManifest c
  | .simplifiedInstaller => simplifiedInstallerManifest c

/-- The partition table of an image. A size that is asked for is strict. Mountpoints are checked
even if there is no table to plan from. -/
def planTable {σ : Type} [Random.Source σ] (t : Target) (b : Blueprint) (o : Options) (source : σ) :
    Except Disk.PlanError PartitionTable := do
  match t.table with
  | some base =>
    Disk.plan .standard base b.settings.filesystem (t.size o.size) Disk.requiredSizes
      (o.size != 0) source
  | none =>
    match Disk.checkMountpoints .standard b.settings.filesystem with
    | .error e => throw (.mountpoints e)
    | .ok _ => throw .wrongType

/-- The context of a request for an image with a partition table or without one. -/
def contextOf (t : Target) (b : Blueprint) (o : Options) (repositories : List Repository)
    (table : Option PartitionTable) : Context where
  target := t
  blueprint := b
  options := o
  repositories := repositories
  chains := packageChains t b repositories
  table := table

/-- The manifest of a request with the tag `id` that has been validated. The seed decides its
identifiers. Errors of its disk are passed on with the tag. -/
def buildFor (t : Target) (b : Blueprint) (o : Options) (repositories : List Repository)
    (seed : Int) (id : String) : Except (Raised BuildError) Manifest := do
  let table ← if t.family.partitioned then
      some <$> (planTable t b o (Random.Twister.ofSeed seed)).mapError fun e =>
        (e.raised.retag id).map .disk
    else pure none
  (assemble (contextOf t b o repositories table)).mapError fun e => .plain (.pipelines e)

/-- The manifest of a request that has been validated, where nobody looks at tags. -/
def build (t : Target) (b : Blueprint) (o : Options) (repositories : List Repository) (seed : Int) :
    Except BuildError Manifest := Raised.untagged (buildFor t b o repositories seed "")

/-- Why there is no manifest for a request. -/
inductive RequestError where
  | rejected (r : Rejection)
  | unbuilt (e : BuildError)
deriving DecidableEq, Repr

def RequestError.message : RequestError → String
  | .rejected r => r.message
  | .unbuilt e => e.message

/-- The manifest of a request with the tag `id`, with what of the request is ignored. -/
def ofRequestFor (t : Target) (b : Blueprint) (o : Options) (repositories : List Repository)
    (seed : Int) (id : String) : Except (Raised RequestError) (Manifest × List Warning) := do
  let warnings ← (Request.validateFor t.release.mountpointPolicy t.imageType b o id).mapError
    (Raised.map .rejected)
  let manifest ← (buildFor t b o repositories seed id).mapError (Raised.map .unbuilt)
  return (manifest, warnings)

/-- The manifest of a request, where nobody looks at tags. -/
def ofRequest (t : Target) (b : Blueprint) (o : Options) (repositories : List Repository)
    (seed : Int) : Except RequestError (Manifest × List Warning) :=
  Raised.untagged (ofRequestFor t b o repositories seed "")

end Imagewright.Manifest
