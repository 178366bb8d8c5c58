import Imagewright.Value.Basic

/-!
# Partitions

Who describes a table decides about more than its layout. What is only handed on, such as labels and
the options of mounts, is carried along unchecked.

## Main definitions

* `Disk.Filesystem`: a filesystem on a partition.
* `Disk.Partition`: a partition; its size is positive.
* `Disk.PartitionTable`: partitions in their order on disk.
-/
namespace Imagewright.Disk

/-- The bytes of a mebibyte. -/
def mib : Int := 1024 * 1024

/-- The bytes of a gibibyte. -/
def gib : Int := 1024 * mib

inductive Label where
  | gpt
  | dos
deriving DecidableEq, Repr

namespace Label

def name : Label → String
  | .gpt => "gpt"
  | .dos => "dos"

def ofName? (name : String) : Option Label :=
  if name == "gpt" then some .gpt else if name == "dos" then some .dos else none

end Label

inductive FilesystemType where
  | ext4
  | xfs
  | vfat
deriving DecidableEq, Repr

namespace FilesystemType

def name : FilesystemType → String
  | .ext4 => "ext4"
  | .xfs => "xfs"
  | .vfat => "vfat"

def ofName? (name : String) : Option FilesystemType :=
  if name == "ext4" then some .ext4
  else if name == "xfs" then some .xfs
  else if name == "vfat" then some .vfat
  else none

def moduleName : FilesystemType → String
  | .ext4 => "ext4"
  | .xfs => "xfs"
  | .vfat => "fat"

end FilesystemType

/-- Why a table is refused. -/
inductive TableDefect where
  | unsupportedFilesystem (type : String)
  | emptyPartition
deriving DecidableEq, Repr

def TableDefect.message : TableDefect → String
  | .unsupportedFilesystem type => "Unsupported filesystem type: " ++ type
  | .emptyPartition => "Partition size must be positive"

/-- The type of a name, which is refused if there is none. -/
def FilesystemType.ofName (name : String) : Except TableDefect FilesystemType :=
  match ofName? name with
  | some type => .ok type
  | none => .error (.unsupportedFilesystem name)

structure Filesystem where
  type : FilesystemType
  mountpoint : Value
  /-- The identifier; empty until the disk is planned. -/
  uuid : Value := ""
  label : Value := ""
  fstabOptions : Value := "defaults"
  fstabFreq : Value := .int 0
  fstabPassno : Value := .int 0
deriving Repr

/-- The types of partitions. -/
def biosBootType : String := "21686148-6449-6E6F-744E-656564454649"

@[inherit_doc biosBootType]
def efiSystemType : String := "C12A7328-F81F-11D2-BA4B-00A0C93EC93B"

@[inherit_doc biosBootType]
def linuxDataType : String := "0FC63DAF-8483-4772-8E79-3D69D8477DE4"

@[inherit_doc biosBootType]
def dosPrepType : String := "41"

@[inherit_doc biosBootType]
def dosLinuxType : String := "83"

@[inherit_doc biosBootType]
def dosExtendedType : String := "05"

def Label.dataType : Label → String
  | .gpt => linuxDataType
  | .dos => dosLinuxType

structure Partition where
  /-- The size in bytes. -/
  size : Int
  type : Value
  /-- The first byte; zero until the disk is planned. -/
  start : Int := 0
  /-- The identifier; empty until the disk is planned, and under a DOS label. -/
  uuid : Value := ""
  bootable : Value := .bool false
  filesystem : Option Filesystem := none
  size_pos : 0 < size
deriving Repr

namespace Partition

/-- A partition of a size and a type, which is refused if the size is not positive. -/
def ofSize (size : Int) (type : Value) : Except TableDefect Partition :=
  if h : 0 < size then .ok { size := size, type := type, size_pos := h } else .error .emptyPartition

/-- The mountpoint of the filesystem, if there is one. -/
def mountpoint? (p : Partition) : Option Value :=
  (p.filesystem.map (·.mountpoint)).filter (!·.isNull)

def isMountedAt (p : Partition) (path : String) : Bool := p.mountpoint?.any (Value.same path)

/-- The partition holds logical partitions. -/
def isExtended (p : Partition) : Bool := p.type.same dosExtendedType

/-- The partition with at least `size` bytes. -/
def growTo (p : Partition) (size : Int) : Partition :=
  { p with size := max p.size size, size_pos := Int.lt_of_lt_of_le p.size_pos (Int.le_max_left ..) }

/-- The partition with `extra` bytes more. -/
def growBy (p : Partition) (extra : Nat) : Partition :=
  { p with size := p.size + extra, size_pos := by have := p.size_pos; omega }

@[simp] theorem growTo_size (p : Partition) (size : Int) : (p.growTo size).size = max p.size size :=
  rfl

@[simp] theorem growBy_size (p : Partition) (extra : Nat) :
    (p.growBy extra).size = p.size + extra := rfl

end Partition

/-- A label and its partitions in their order on disk. -/
structure PartitionTable where
  label : Label
  partitions : List Partition
  /-- The identifier; empty until the disk is planned. -/
  uuid : Value := ""
  /-- The size of the disk in bytes; zero until it is planned. -/
  size : Int := 0
deriving Repr

namespace PartitionTable

/-- The first partition that is mounted at a path. -/
def find? (t : PartitionTable) (path : String) : Option Partition :=
  t.partitions.find? (·.isMountedAt path)

/-- The place of the first partition that is mounted at a path. -/
def findIdx? (t : PartitionTable) (path : String) : Option Nat :=
  t.partitions.findIdx? (·.isMountedAt path)

def mountpoints (t : PartitionTable) : List Value := t.partitions.filterMap (·.mountpoint?)

def filesystems (t : PartitionTable) : List Filesystem := t.partitions.filterMap (·.filesystem)

end PartitionTable
end Imagewright.Disk
