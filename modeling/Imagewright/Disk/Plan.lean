import Imagewright.Assoc
import Imagewright.Disk.Mountpoint
import Imagewright.Disk.Partition
import Imagewright.Raised
import Imagewright.Random.Identifier

/-!
# Planning disks

A disk is planned from the partition table of its image type and the mountpoints that are asked for.
First each partition gets its size, then all get their places, at last they get identifiers. Only
the last step draws random words.

## Main definitions

* `Disk.arrange`: the partitions with their sizes, the new ones in front of the root partition.
* `Disk.neededSize`: the bytes that partitions take up with everything around them.
* `Disk.place`: the partitions with their first bytes.
* `Disk.identify`: a table with its identifiers.
* `Disk.plan`: all of it.
-/
namespace Imagewright.Disk

open Imagewright.Random (Source)

/-- The bytes in front of the first partition. -/
def headerSize : Int := mib

/-- The bytes behind the last partition, where a GPT label has its copy. -/
def footerSize : Label → Int
  | .gpt => mib
  | .dos => 0

/-- The partitions that a DOS label has room for. -/
def primarySlots : Nat := 4

/-- The bytes of the boot record in front of each logical partition. -/
def bootRecordSize : Int := mib

/-- The least sizes of some mountpoints. -/
def requiredSizes : Assoc String Int := [("/", gib), ("/usr", 2 * gib)]

/-- Why a disk cannot be planned. -/
inductive PlanError where
  | mountpoints (e : MountpointError)
  /-- There is no table, or a partition of it is mounted at what can be no key. -/
  | wrongType
  | insufficient (required available : Int)
  | noRoot
deriving DecidableEq, Repr

/-- Sizes are written whatever their length (see `Text.maxDigits`). -/
def PlanError.message : PlanError → String
  | .mountpoints e => e.message
  | .wrongType => "<type error>"
  | .insufficient required available =>
    s!"Requested image size {available} bytes is not large enough for the partition table, " ++
      s!"which requires {required} bytes"
  | .noRoot => "Partition table has no root partition"

/-- An error as planning raises it, which knows nothing about requests. Tables that are no good and
values of the wrong type have no place for a tag. -/
def PlanError.raised (e : PlanError) : Raised PlanError :=
  match e with
  | .mountpoints .wrongType | .wrongType | .noRoot => .plain e
  | .mountpoints (.dirty _) | .mountpoints (.unsupported _) | .insufficient .. => .tagged e

/-- The least multiple of a mebibyte that is not below `n`. -/
def alignUp (n : Int) : Int := (n + (mib - 1)) / mib * mib

theorem le_alignUp (n : Int) : n ≤ alignUp n := by
  unfold alignUp mib; omega

/-- The sizes that are asked for, the largest one for each path. -/
def largestRequests (requests : List SizedPath) : Assoc String Int :=
  requests.foldl (fun sizes r => sizes.set r.path (max ((sizes.get? r.path).getD 0) r.minSize)) []

/-- The size for a mountpoint, zero if it has none. Only texts have one. -/
def sizeAt (sizes : Assoc String Int) : Value → Int
  | .str path => (sizes.get? path).getD 0
  | _ => 0

/-- A partition of the table, grown to what is asked for and what is required at its mountpoint. -/
def growExisting (requested required : Assoc String Int) (p : Partition) : Partition :=
  match p.mountpoint? with
  | none => p
  | some m => p.growTo (alignUp (max p.size (max (sizeAt requested m) (sizeAt required m))))

/-- A partition for a mountpoint that the table does not have. -/
def newPartition (label : Label) (required : Assoc String Int) (path : String) (size : Int) :
    Partition where
  size := alignUp (max size (max ((required.get? path).getD 0) mib))
  type := label.dataType
  filesystem := some { type := .ext4, mountpoint := path }
  size_pos := by
    have h := le_alignUp (max size (max ((required.get? path).getD 0) mib))
    have hm : (0 : Int) < mib := by decide
    omega

/-- The partitions with their sizes. New ones stand directly in front of the root partition, in the
order in which they were first asked for. A table without a root partition is refused. -/
def arrange (base : PartitionTable) (requests : List SizedPath) (required : Assoc String Int) :
    Except PlanError (List Partition) := do
  if base.mountpoints.any (!·.isAtomic) then throw .wrongType
  let requested := largestRequests requests
  let existing := base.partitions.map (growExisting requested required)
  let some root := base.findIdx? "/" | throw .noRoot
  let added := (requested.filter fun r => (base.findIdx? r.1).isNone).map fun r =>
    newPartition base.label required r.1 r.2
  return existing.take root ++ added ++ existing.drop root

/-- How many of the last partitions are logical ones. -/
def logicalCount (label : Label) (partitions : List Partition) : Nat :=
  if label == .dos && primarySlots < partitions.length then partitions.length - (primarySlots - 1)
  else 0

def totalSize : List Partition → Int
  | [] => 0
  | p :: rest => p.size + totalSize rest

theorem totalSize_nonneg (ps : List Partition) : 0 ≤ totalSize ps := by
  induction ps with
  | nil => exact Int.le_refl 0
  | cons p rest ih => have := p.size_pos; simp only [totalSize]; omega

/-- The bytes that partitions take up, with the header, the boot records and the footer. -/
def neededSize (label : Label) (partitions : List Partition) : Int :=
  headerSize + totalSize partitions + logicalCount label partitions * bootRecordSize
    + footerSize label

/-- Gives `extra` bytes to the first root partition. -/
def growRoot (extra : Nat) : List Partition → List Partition
  | [] => []
  | p :: rest =>
    if p.isMountedAt "/" then p.growBy extra :: rest else p :: growRoot extra rest

/-- The extended partition around logical ones. -/
def extendedAround (logicals : List Partition) (h : logicals ≠ []) : Partition where
  size := totalSize logicals + logicals.length * bootRecordSize
  type := dosExtendedType
  size_pos := by
    have hs := totalSize_nonneg logicals
    have hl : 0 < (logicals.length : Int) := by
      have := List.length_pos_iff.2 h
      omega
    have := Int.mul_pos hl (by decide : (0 : Int) < bootRecordSize)
    omega

/-- Puts the extended partition in front of the last `logical` partitions. -/
def nest (logical : Nat) (partitions : List Partition) : List Partition :=
  let primaries := partitions.take (partitions.length - logical)
  let logicals := partitions.drop (partitions.length - logical)
  if h : logicals ≠ [] then primaries ++ extendedAround logicals h :: logicals else partitions

/-- Gives each partition its first byte, from `start` on. An extended partition takes up a boot
record only, and behind it (`inside`) a boot record follows each partition. -/
def place (start : Int) (inside : Bool) : List Partition → List Partition
  | [] => []
  | p :: rest =>
    { p with start := start } ::
      if p.isExtended then place (start + bootRecordSize) true rest
      else place (start + p.size + if inside then bootRecordSize else 0) inside rest

/-- The table without identifiers of an image of at least `imageSize` bytes. What is left of the
image goes to the root partition. If the partitions need more, a strict size is an error and any
other grows. -/
def layOut (base : PartitionTable) (partitions : List Partition) (imageSize : Int) (strict : Bool) :
    Except PlanError PartitionTable :=
  let logical := logicalCount base.label partitions
  let needed := neededSize base.label partitions
  let total := alignUp imageSize
  if strict && total < needed then .error (.insufficient needed imageSize)
  else
    let partitions := growRoot (total - needed).toNat partitions
    let partitions := if logical == 0 then partitions else nest logical partitions
    .ok {
      label := base.label
      partitions := place headerSize false partitions
      size := max total needed }

section Identifiers

variable {σ : Type} [Source σ]

def identifyFilesystem (f : Filesystem) : StateM σ Filesystem := do
  let uuid ← match f.type with
    | .vfat => Random.volumeId
    | .ext4 | .xfs => Random.uuid
  return { f with uuid := uuid }

/-- A partition with its identifiers. An extended partition has none. -/
def identifyPartition (label : Label) (p : Partition) : StateM σ Partition := do
  if p.isExtended then return p
  else
    let uuid ← match label with
      | .gpt => Random.uuid
      | .dos => pure ""
    let filesystem ← match p.filesystem with
      | some f => some <$> identifyFilesystem f
      | none => pure none
    return { p with uuid := uuid, filesystem := filesystem }

def identify (t : PartitionTable) : StateM σ PartitionTable := do
  let uuid ← match t.label with
    | .gpt => Random.uuid
    | .dos => Random.diskId
  let partitions ← t.partitions.mapM (identifyPartition t.label)
  return { t with uuid := uuid, partitions := partitions }

/-- The table of a disk of at least `imageSize` bytes with the mountpoints of `requests`. -/
def plan (policy : MountpointPolicy) (base : PartitionTable)
    (requests : List Blueprint.FilesystemRequest) (imageSize : Int) (required : Assoc String Int)
    (strict : Bool) (source : σ) : Except PlanError PartitionTable := do
  let sized ← (checkMountpoints policy requests).mapError .mountpoints
  let partitions ← arrange base sized required
  let table ← layOut base partitions imageSize strict
  return ((identify table).run source).1

end Identifiers

end Imagewright.Disk
