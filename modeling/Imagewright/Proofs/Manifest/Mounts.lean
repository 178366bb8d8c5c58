import Imagewright.Proofs.Manifest.Addresses

/-!
# Mounts and the devices that they name

While the tree is copied to the image of a disk, the filesystems of the disk are mounted, each from
a source that is called after the place of its partition. The stages that make the filesystems
declare the sectors of their partitions as a device. The stage that copies declares none, so its
mounts name devices that are not there.

## Main definitions

* `Manifest.MountOf`: a mount is one of the filesystem of a partition.
* `Manifest.Stage.Declares`: a stage declares the devices that its mounts name.
* `Manifest.partitionDevices`: the partitions with filesystems, as devices called like the sources.

## Main statements

* `Manifest.mem_placed_iff`: the filesystems of a table with the places of their partitions.
* `Manifest.mounts_imageStages`: what the stages of an image mount, and what they declare.
-/
namespace Imagewright.Manifest

open Catalog (BootMode)
open Disk (Filesystem Partition PartitionTable)

/-! ## What mounts name -/

/-- A mount is one of the filesystem of a partition, from a source that is called after the place of
the partition in the table. -/
structure MountOf (t : PartitionTable) (m : Mount) (index : Nat) (p : Partition) (f : Filesystem) :
    Prop where
  partition : t.partitions[index]? = some p
  filesystem : p.filesystem = some f
  mount : m = .filesystem {
    name := partitionName index, type := f.type.moduleName, source := partitionName index
    target := f.mountpoint }

/-- The sectors of a partition in an image file. -/
def partitionDevice (filename : Value) (p : Partition) : Device :=
  .range filename (sectors p.start) (sectors p.size)

/-- Each mount of a stage names a device of the stage, the partition whose filesystem is mounted. -/
def Stage.Declares (t : PartitionTable) (filename : Value) (s : Stage) : Prop :=
  ∀ m ∈ s.mounts, ∃ index p f, MountOf t m index p f ∧
    Assoc.get? s.devices (partitionName index) = some (partitionDevice filename p)

/-- The partitions with filesystems, as devices that are called like the sources of mounts. -/
def partitionDevices (t : PartitionTable) (filename : Value) : Assoc String Device :=
  (placed t).map fun f => (partitionName f.index, partitionDevice filename f.partition)

/-! ## Places -/

theorem partitionName_inj {i j : Nat} : partitionName i = partitionName j ↔ i = j := by
  refine ⟨fun h => ?_, congrArg partitionName⟩
  have happend : "part" ++ i.repr = "part" ++ j.repr := h
  have hdigits : Nat.toDigits 10 i = Nat.toDigits 10 j :=
    String.ofList_injective ((String.append_right_inj _).1 happend)
  have hvalue := congrArg (Nat.ofDigitChars 10 · 0) hdigits
  simpa [Nat.ofDigitChars_toDigits] using hvalue

theorem placedFrom_cons_none {p : Partition} (h : p.filesystem = none) (index : Nat)
    (ps : List Partition) : placedFrom index (p :: ps) = placedFrom (index + 1) ps := by
  rw [placedFrom, h]

theorem placedFrom_cons_some {p : Partition} {f : Filesystem} (h : p.filesystem = some f)
    (index : Nat) (ps : List Partition) :
    placedFrom index (p :: ps) = ⟨index, p, f⟩ :: placedFrom (index + 1) ps := by
  rw [placedFrom, h]

theorem mem_placedFrom_iff {index : Nat} {ps : List Partition} {f : PlacedFilesystem} :
    f ∈ placedFrom index ps ↔ ∃ i, f.index = index + i ∧ ps[i]? = some f.partition ∧
      f.partition.filesystem = some f.filesystem := by
  induction ps generalizing index with
  | nil => simp [placedFrom]
  | cons p ps ih =>
    have hshift : (∃ i, f.index = index + i ∧ (p :: ps)[i]? = some f.partition ∧
        f.partition.filesystem = some f.filesystem) ↔
        (f.index = index ∧ p = f.partition ∧ f.partition.filesystem = some f.filesystem) ∨
          ∃ i, f.index = index + 1 + i ∧ ps[i]? = some f.partition ∧
            f.partition.filesystem = some f.filesystem := by
      constructor
      · rintro ⟨i, hi, hp, hf⟩
        cases i with
        | zero => exact .inl ⟨hi, Option.some.inj hp, hf⟩
        | succ i => exact .inr ⟨i, by omega, by simpa using hp, hf⟩
      · rintro (⟨hi, rfl, hf⟩ | ⟨i, hi, hp, hf⟩)
        · exact ⟨0, hi, rfl, hf⟩
        · exact ⟨i + 1, by omega, by simpa using hp, hf⟩
    rw [hshift, ← ih]
    obtain ⟨n, q, g⟩ := f
    cases hp : p.filesystem with
    | none =>
      rw [placedFrom_cons_none hp]
      grind
    | some f =>
      rw [placedFrom_cons_some hp, List.mem_cons]
      grind

theorem mem_placed_iff {t : PartitionTable} {f : PlacedFilesystem} : f ∈ placed t ↔
    t.partitions[f.index]? = some f.partition ∧ f.partition.filesystem = some f.filesystem := by
  simp [placed, mem_placedFrom_iff]

theorem pairwise_index_placedFrom (index : Nat) (ps : List Partition) :
    ((placedFrom index ps).map (·.index)).Pairwise (· < ·) := by
  induction ps generalizing index with
  | nil => exact .nil
  | cons p ps ih =>
    cases hp : p.filesystem with
    | none =>
      rw [placedFrom_cons_none hp]
      exact ih _
    | some f =>
      rw [placedFrom_cons_some hp]
      refine List.Pairwise.cons ?_ (ih _)
      intro n hn
      obtain ⟨g, hg, rfl⟩ := List.mem_map.1 hn
      obtain ⟨i, hi, -⟩ := mem_placedFrom hg
      simp only
      omega

theorem mountOf_of_placed {t : PartitionTable} {f : PlacedFilesystem} (h : f ∈ placed t) :
    MountOf t (.filesystem f.mount) f.index f.partition f.filesystem :=
  ⟨(mem_placed_iff.1 h).1, (mem_placed_iff.1 h).2, rfl⟩

/-! ## Devices -/

theorem nodup_keys_partitionDevices (t : PartitionTable) (filename : Value) :
    (partitionDevices t filename).keys.Nodup := by
  have hkeys : (partitionDevices t filename).keys =
      ((placed t).map (·.index)).map partitionName := by
    simp [partitionDevices, Assoc.keys]
  rw [hkeys, List.nodup_map_iff fun _ _ => partitionName_inj.1]
  exact (pairwise_index_placedFrom 0 t.partitions).imp Nat.ne_of_lt

/-- The name of a place tells the partition that is there. -/
theorem get?_partitionDevices {t : PartitionTable} {filename : Value} {f : PlacedFilesystem}
    (h : f ∈ placed t) : (partitionDevices t filename).get? (partitionName f.index) =
      some (partitionDevice filename f.partition) :=
  (Assoc.get?_eq_some_iff (nodup_keys_partitionDevices t filename)).2 (List.mem_map_of_mem h)

/-! ## Stages -/

section

variable {t : PartitionTable} {filename : Value} {arch tree : String} {mode : BootMode}
  {ss : List Stage} {s : Stage}

theorem devices_copyStage (h : copyStage t tree = .ok s) : s.devices = [] := by
  obtain ⟨-, rfl⟩ := copyStage_eq_ok.1 h
  rfl

theorem mem_mounts_copyStage (h : copyStage t tree = .ok s) {m : Mount} :
    m ∈ s.mounts ↔ ∃ f ∈ placed t, .filesystem f.mount = m := by
  obtain ⟨-, rfl⟩ := copyStage_eq_ok.1 h
  simp only [List.mem_map, (sortMounts_perm _).mem_iff, exists_exists_and_eq_and]

/-- Of the stages that write the image of a disk, only the one that copies mounts anything. -/
theorem mounts_eq_nil_or_copyStage (h : imageStages t filename arch mode tree = .ok ss)
    (hs : s ∈ ss) : s.mounts = [] ∨ copyStage t tree = .ok s := by
  obtain ⟨copy, hcopy, rfl⟩ := imageStages_eq_ok.1 h
  simp only [List.mem_append, List.mem_cons, List.not_mem_nil, or_false, List.mem_map] at hs
  rcases hs with (((rfl | rfl) | ⟨f, -, rfl⟩) | rfl) | hs
  · exact .inl rfl
  · exact .inl rfl
  · exact .inl rfl
  · exact .inr hcopy
  · unfold bootloaderInstallStages at hs
    split at hs
    · rw [List.mem_singleton.1 hs]
      exact .inl rfl
    · cases hs

/-- The filesystem of a partition is made by a stage that declares the partition as its device. -/
theorem exists_make (h : imageStages t filename arch mode tree = .ok ss) {f : PlacedFilesystem}
    (hf : f ∈ placed t) : ∃ make ∈ ss, make.option? "uuid" = some f.filesystem.uuid ∧
      make.devices = [("device", partitionDevice filename f.partition)] := by
  have hmake : makeFilesystemStage filename f.partition f.filesystem ∈
      ss.filter (·.makesFilesystem) := by
    rw [makes_imageStages h]
    exact List.mem_map_of_mem hf
  exact ⟨_, (List.mem_filter.1 hmake).1, rfl, rfl⟩

theorem declares_iff (h : imageStages t filename arch mode tree = .ok ss) (hs : s ∈ ss) :
    s.Declares t filename ↔ s.mounts = [] := by
  rcases mounts_eq_nil_or_copyStage h hs with hnil | hcopy
  · simp [Stage.Declares, hnil]
  · refine ⟨fun hdeclares => List.eq_nil_iff_forall_not_mem.2 fun m hm => ?_, fun hnil => ?_⟩
    · obtain ⟨index, p, f, -, hget⟩ := hdeclares m hm
      rw [devices_copyStage hcopy] at hget
      cases hget
    · simp [Stage.Declares, hnil]

/-- What the stages that write the image of a disk mount: the filesystems of the table, each from a
source that is called after the place of its partition. The stage that makes the filesystem declares
that partition as its device, and the stage that mounts it declares none. With the partitions
declared under the names of the sources, each mount would have its device. -/
theorem mounts_imageStages (h : imageStages t filename arch mode tree = .ok ss) :
    (∀ s ∈ ss, ∀ m ∈ s.mounts, s.devices = [] ∧ ∃ index p f, MountOf t m index p f ∧
      ∃ make ∈ ss, make.option? "uuid" = some f.uuid ∧
        make.devices = [("device", partitionDevice filename p)]) ∧
    (∀ index p f, t.partitions[index]? = some p → p.filesystem = some f →
      ∃ s ∈ ss, ∃ m ∈ s.mounts, MountOf t m index p f) ∧
    (∀ s ∈ ss, s.Declares t filename ↔ s.mounts = []) ∧
    ∀ s ∈ ss, Stage.Declares t filename { s with devices := partitionDevices t filename } := by
  refine ⟨fun s hs m hm => ?_, fun index p f hp hf => ?_, fun s hs => declares_iff h hs,
    fun s hs m hm => ?_⟩
  · rcases mounts_eq_nil_or_copyStage h hs with hnil | hcopy
    · rw [hnil] at hm
      cases hm
    · obtain ⟨f, hf, rfl⟩ := (mem_mounts_copyStage hcopy).1 hm
      exact ⟨devices_copyStage hcopy, _, _, _, mountOf_of_placed hf, exists_make h hf⟩
  · obtain ⟨copy, hcopy, rfl⟩ := imageStages_eq_ok.1 h
    have hplaced : (⟨index, p, f⟩ : PlacedFilesystem) ∈ placed t := mem_placed_iff.2 ⟨hp, hf⟩
    exact ⟨copy, by simp, _, (mem_mounts_copyStage hcopy).2 ⟨_, hplaced, rfl⟩,
      mountOf_of_placed hplaced⟩
  · rcases mounts_eq_nil_or_copyStage h hs with hnil | hcopy
    · rw [show s.mounts = [] from hnil] at hm
      cases hm
    · obtain ⟨f, hf, rfl⟩ := (mem_mounts_copyStage hcopy).1 hm
      exact ⟨_, _, _, mountOf_of_placed hf, get?_partitionDevices hf⟩

end

/-! ## A disk with a root -/

def rootFilesystem : Filesystem where
  type := .ext4
  mountpoint := "/"
  uuid := "6264d520-3fb9-423f-8ab8-7a0a8e3d3562"

def rootPartition : Partition where
  start := 2097152
  size := 1073741824
  size_pos := by decide
  type := .str Disk.linuxDataType
  filesystem := some rootFilesystem

/-- A disk with a partition for the boot loader and one for everything else. -/
def rootTable : PartitionTable where
  label := .gpt
  partitions := [
    { start := 1048576, size := 1048576, size_pos := by decide, type := .str Disk.biosBootType },
    rootPartition]
  size := 1076887552

theorem mounts_imageStages_root : ∃ ss,
    imageStages rootTable "disk.raw" "x86_64" .legacy "os" = .ok ss ∧
      rootTable.partitions[1]? = some rootPartition ∧
      rootPartition.filesystem = some rootFilesystem ∧
      ∃ s ∈ ss, ∃ m ∈ s.mounts, MountOf rootTable m 1 rootPartition rootFilesystem ∧
        s.devices = [] ∧
        Stage.Declares rootTable "disk.raw"
          { s with devices := partitionDevices rootTable "disk.raw" } := by
  obtain ⟨ss, hss⟩ : Outcome.Succeeds
      (imageStages rootTable "disk.raw" "x86_64" .legacy "os") := ⟨_, rfl⟩
  obtain ⟨hundeclared, hmounted, -, hdeclared⟩ := mounts_imageStages hss
  obtain ⟨s, hs, m, hm, hof⟩ := hmounted 1 rootPartition rootFilesystem rfl rfl
  exact ⟨ss, hss, rfl, rfl, s, hs, m, hm, hof, (hundeclared s hs m hm).1, hdeclared s hs⟩

/-- The stage that copies to the disk does not declare the device that it mounts. -/
theorem not_declares_root :
    ¬∀ ss, imageStages rootTable "disk.raw" "x86_64" .legacy "os" = .ok ss →
      ∀ s ∈ ss, s.Declares rootTable "disk.raw" := by
  intro hdeclares
  obtain ⟨ss, hss⟩ : Outcome.Succeeds
      (imageStages rootTable "disk.raw" "x86_64" .legacy "os") := ⟨_, rfl⟩
  obtain ⟨copy, hcopy, hstages⟩ := imageStages_eq_ok.1 hss
  have hmem : copy ∈ ss := by simp [← hstages]
  have hplaced : (⟨1, rootPartition, rootFilesystem⟩ : PlacedFilesystem) ∈ placed rootTable :=
    mem_placed_iff.2 ⟨rfl, rfl⟩
  have hmount := (mem_mounts_copyStage hcopy).2 ⟨_, hplaced, rfl⟩
  rw [(declares_iff hss hmem).1 (hdeclares ss hss copy hmem)] at hmount
  cases hmount

end Imagewright.Manifest
