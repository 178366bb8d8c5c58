import Imagewright.Catalog.Family
import Imagewright.Disk.Partition
import Imagewright.Manifest.TreeStages
import Imagewright.Text.Letters

/-!
# Stages of disks

The stages that tell a tree about its disk, and those that write the image of the disk.

## Main definitions

* `Manifest.fstabStage`, `Manifest.bootloaderStages`: how a tree mounts and boots its disk.
* `Manifest.imageStages`: the image file, its partitions, its filesystems and their content.
-/
namespace Imagewright.Manifest

open Catalog (BootMode)
open Disk (Filesystem Partition PartitionTable)

/-- The bytes of a sector. -/
def sectorSize : Int := 512

/-- The sectors of a number of bytes. -/
def sectors (bytes : Int) : Int := bytes / sectorSize

def fstabEntry (f : Filesystem) : Value :=
  .obj [
    ("uuid", f.uuid),
    ("vfs_type", .str f.type.name),
    ("path", f.mountpoint),
    ("options", f.fstabOptions),
    ("freq", f.fstabFreq),
    ("passno", f.fstabPassno)]

def fstabStage (t : PartitionTable) : Stage :=
  stage "fstab" [("filesystems", .list (t.filesystems.map fstabEntry))]

/-- The identifier of the filesystem that is mounted at a path, empty if there is none. -/
def filesystemUuid (t : PartitionTable) (path : String) : Value :=
  (((t.find? path).bind (·.filesystem)).map (·.uuid)).getD ""

def kernelCommandStage (rootUuid kernelOptions : Value) : Stage :=
  stage "kernel-cmdline" [("root_fs_uuid", rootUuid), ("kernel_opts", kernelOptions)]

def firmwareOptions (arch : String) (mode : BootMode) (product : String) : List (String × Value) :=
  (if mode.hasUefi then
    [("uefi", .obj [("vendor", .str (Text.lower product)), ("unified", .bool true)])]
  else []) ++
  if mode.hasLegacy then
    [("legacy", .str (if arch == "ppc64le" then "powerpc-ieee1275" else "i386-pc"))]
  else []

def bootloaderStages (t : PartitionTable) (arch : String) (mode : BootMode) (kernelOptions : Value)
    (product : String) : List Stage :=
  if arch == "s390x" then [stage "zipl" [("timeout", .int 0)]]
  else
    let bootUuid := filesystemUuid t "/boot"
    [stage "grub2" (
      [("root_fs_uuid", filesystemUuid t "/"), ("kernel_opts", kernelOptions)] ++
      (if bootUuid.truthy then [("boot_fs_uuid", bootUuid)] else []) ++
      firmwareOptions arch mode product)]

def partitionEntry (p : Partition) : Value :=
  .obj (
    [("start", .int (sectors p.start)), ("size", .int (sectors p.size)), ("type", p.type)] ++
    (if p.uuid.truthy then [("uuid", p.uuid)] else []) ++
    if p.bootable.truthy then [("bootable", .bool true)] else [])

/-- Gives the file its size, which is written whatever its length (see `Text.maxDigits`). -/
def truncateStage (t : PartitionTable) (filename : Value) : Stage :=
  stage "truncate" [("filename", filename), ("size", .str (toString t.size))]

def partitionStage (t : PartitionTable) (filename : Value) : Stage :=
  { stage "sfdisk" [
      ("label", .str t.label.name),
      ("uuid", t.uuid),
      ("partitions", .list (t.partitions.map partitionEntry))] with
    devices := [("device", .image filename (sectors t.size))] }

def makeFilesystemStage (filename : Value) (p : Partition) (f : Filesystem) : Stage :=
  { stage ("mkfs." ++ f.type.moduleName)
      ([("uuid", f.uuid)] ++ if f.label.truthy then [("label", f.label)] else []) with
    devices := [("device", .range filename (sectors p.start) (sectors p.size))] }

def partitionName (index : Nat) : String := s!"part{index}"

/-- A filesystem with its partition and the index of the partition. -/
structure PlacedFilesystem where
  index : Nat
  partition : Partition
  filesystem : Filesystem

/-- The filesystems of partitions, counted from `index` on. -/
def placedFrom (index : Nat) : List Partition → List PlacedFilesystem
  | [] => []
  | p :: rest =>
    match p.filesystem with
    | some f => ⟨index, p, f⟩ :: placedFrom (index + 1) rest
    | none => placedFrom (index + 1) rest

def placed (t : PartitionTable) : List PlacedFilesystem := placedFrom 0 t.partitions

def PlacedFilesystem.mount (f : PlacedFilesystem) : FilesystemMount where
  name := partitionName f.index
  type := f.filesystem.type.moduleName
  source := partitionName f.index
  target := f.filesystem.mountpoint

/-- Puts a mount in front of the first one whose target is not shorter. -/
def insertMount (m : FilesystemMount) : List FilesystemMount → List FilesystemMount
  | [] => [m]
  | n :: rest => if n.length < m.length then n :: insertMount m rest else m :: n :: rest

/-- Mounts by the lengths of their targets, so that a directory is mounted before what is in it. -/
def sortMounts : List FilesystemMount → List FilesystemMount
  | [] => []
  | m :: rest => insertMount m (sortMounts rest)

/-- The name of the last partition that is mounted at the root, or of the first partition. -/
def rootName (filesystems : List PlacedFilesystem) : String :=
  partitionName
    (((filesystems.reverse.find? (Value.same "/" ·.filesystem.mountpoint)).map (·.index)).getD 0)

def copyPath (source target : String) : Value :=
  .obj [("from", .str source), ("to", .str target)]

/-- Copies the tree of a pipeline to the filesystems of a table. There is no order of mounts if a
target has no length. -/
def copyStage (t : PartitionTable) (tree : String) : Except Value.Mismatch Stage :=
  let mounts := (placed t).map (·.mount)
  if mounts.all (·.target.size?.isSome) then
    .ok { stage "copy" [
        ("paths", .list [copyPath "input://root-tree/" s!"mount://{rootName (placed t)}/"])] with
      inputs := [("root-tree", .tree tree)]
      mounts := (sortMounts mounts).map .filesystem }
  else .error .wrongType

/-- Installs the boot loader for BIOS firmware, where there is one. -/
def bootloaderInstallStages (filename : Value) (arch : String) (mode : BootMode) : List Stage :=
  if arch == "x86_64" && mode.hasLegacy then
    [stage "grub2.inst" [
      ("filename", filename), ("platform", "i386-pc"), ("location", .int 2048)]]
  else []

/-- Writes the image of a disk: the file, its partitions, its filesystems and their content. -/
def imageStages (t : PartitionTable) (filename : Value) (arch : String) (mode : BootMode)
    (tree : String := "os") : Except Value.Mismatch (List Stage) := do
  let copy ← copyStage t tree
  return [truncateStage t filename, partitionStage t filename] ++
    (placed t).map (fun f => makeFilesystemStage filename f.partition f.filesystem) ++
    [copy] ++ bootloaderInstallStages filename arch mode

end Imagewright.Manifest
