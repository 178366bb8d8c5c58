import Imagewright.Disk.Partition

/-!
# Showing partition tables

## Main definitions

* `Disk.PartitionTable.summary`: a partition table as it is shown.
* `Disk.Partition.outline`: a partition with all its fields.
-/
namespace Imagewright.Disk

def Filesystem.summary (f : Filesystem) : Value :=
  .obj [
    ("type", .str f.type.name),
    ("uuid", f.uuid),
    ("label", f.label),
    ("mountpoint", f.mountpoint),
    ("fstab_options", f.fstabOptions)]

def Partition.summary (p : Partition) : Value :=
  .obj (
    [("start", .int p.start), ("size", .int p.size), ("type", p.type)] ++
    (if p.uuid.truthy then [("uuid", p.uuid)] else []) ++
    (if p.bootable.truthy then [("bootable", .bool true)] else []) ++
    match p.filesystem with
    | some f => [("filesystem", f.summary)]
    | none => [])

def PartitionTable.summary (t : PartitionTable) : Value :=
  .obj [
    ("label", .str t.label.name),
    ("uuid", t.uuid),
    ("size", .int t.size),
    ("partitions", .list (t.partitions.map Partition.summary))]

def Filesystem.outline (f : Filesystem) : Value :=
  .obj [
    ("type", .str f.type.name),
    ("mountpoint", f.mountpoint),
    ("uuid", f.uuid),
    ("label", f.label),
    ("fstab_options", f.fstabOptions),
    ("fstab_freq", f.fstabFreq),
    ("fstab_passno", f.fstabPassno)]

def Partition.outline (p : Partition) : Value :=
  .obj [
    ("size", .int p.size),
    ("type", p.type),
    ("start", .int p.start),
    ("uuid", p.uuid),
    ("bootable", p.bootable),
    ("filesystem", (p.filesystem.map Filesystem.outline).getD .null)]

end Imagewright.Disk
