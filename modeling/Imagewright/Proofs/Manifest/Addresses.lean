import Imagewright.Proofs.Disk.Extents
import Imagewright.Proofs.Manifest.Filesystems

/-!
# Stages address their disk

The stages that write the image of a disk tell its table in four ways: as the table of partitions
that they write, as the devices on which they make filesystems, as the mounts that they copy to, and
as the place of the boot loader. All of them speak of the same places.

## Main definitions

* `Manifest.entryExtent?`, `Manifest.Stage.extent?`: the sectors that entries and stages speak of.
* `Manifest.tableEntries`, `Manifest.copyMounts`: the entries and the mounts that stages write.
* `Manifest.MakesMounted`, `Manifest.Addressed`: stages and a table agree on places.

## Main statements

* `Manifest.spaced_inSectors`: bytes that are apart are sectors that are apart.
* `Manifest.pairwise_sortMounts`: a directory is mounted before what is in it.
* `Manifest.addressed_plan`: the stages for a planned disk agree with its table.
-/
namespace Imagewright.Manifest

open Catalog (BootMode)
open Disk (Extent Filesystem IsAbove Mountable MountpointPolicy Partition PartitionTable Spaced mib)
open Imagewright.Random (Source)

/-! ## What stages say about places -/

/-- The sectors that an entry of a table of partitions speaks of. -/
def entryExtent? (entry : Value) : Option Extent :=
  match entry.at? "start", entry.at? "size" with
  | some (.int start), some (.int size) => some ⟨start, size⟩
  | _, _ => none

/-- The sectors of the device that a stage works on. -/
def Stage.extent? (s : Stage) : Option Extent :=
  match Assoc.get? s.devices "device" with
  | some (.range _ start size) => some ⟨start, size⟩
  | _ => none

def Mount.filesystem? : Mount → Option FilesystemMount
  | .filesystem m => some m
  | .other _ => none

/-- The entries of the tables of partitions that stages write. -/
def tableEntries (ss : List Stage) : List Value :=
  (stagesOf "sfdisk" ss).flatMap fun s => ((s.option? "partitions").map (·.listed)).getD []

/-- The filesystems that are mounted while stages copy. -/
def copyMounts (ss : List Stage) : List FilesystemMount :=
  (stagesOf "copy" ss).flatMap fun s => s.mounts.filterMap (·.filesystem?)

/-- A stage makes a filesystem on the sectors of the entry that its mount is named after. -/
def MakesMounted (ss : List Stage) (s : Stage) (f : Filesystem) : Prop :=
  s.option? "uuid" = some f.uuid ∧ ∃ index entry e m,
    (tableEntries ss)[index]? = some entry ∧ entryExtent? entry = some e ∧ s.extent? = some e ∧
    m ∈ copyMounts ss ∧ m.target = f.mountpoint ∧
    m.name = partitionName index ∧ m.source = partitionName index

/-- Stages and the table of a disk agree on all places. A sector has 512 bytes. -/
structure Addressed (t : PartitionTable) (ss : List Stage) : Prop where
  /-- The image file is as large as the disk. -/
  file : ∃ s, stagesOf "truncate" ss = [s] ∧ s.option? "size" = some (.str (toString t.size))
  /-- The table of partitions is written to a device that is as large as the disk. -/
  device : ∃ s filename sectors, stagesOf "sfdisk" ss = [s] ∧
    s.devices = [("device", .image filename sectors)] ∧ sectors * 512 = t.size
  /-- Its entries are the partitions, to the byte. -/
  entries : List.Forall₂ (fun entry p => ∃ e, entryExtent? entry = some e ∧
    e.start * 512 = p.start ∧ e.size * 512 = p.size) (tableEntries ss) t.partitions
  /-- Each filesystem is made where it is mounted. -/
  made : List.Forall₂ (MakesMounted ss) (ss.filter (·.makesFilesystem)) t.filesystems
  /-- The filesystems lie one behind the other, between the header and the end of the disk or the
  copy of a GPT label there. -/
  apart : ∃ sectors, sectors * 512 = t.size ∧
    Spaced 2048 ((ss.filter (·.makesFilesystem)).filterMap (·.extent?))
      (match t.label with
        | .gpt => sectors - 2048
        | .dos => sectors)
  /-- All filesystems are mounted, and nothing else. -/
  mounted : ((copyMounts ss).map fun m => (m.target, m.type)).Perm
    (t.filesystems.map fun f => (f.mountpoint, f.type.moduleName))
  once : ((copyMounts ss).map (·.target)).Nodup
  paths : ∀ m ∈ copyMounts ss, ∃ path, m.target = .str path ∧ Disk.isClean path = true
  /-- What is mounted later is not above what is mounted before. -/
  ordered : (copyMounts ss).Pairwise fun m m' => ∀ path path', m.target = .str path →
    m'.target = .str path' → ¬ IsAbove path' path
  /-- The tree is copied to what is mounted at the root. -/
  destination : ∃ s m, stagesOf "copy" ss = [s] ∧ s.mounts = (copyMounts ss).map .filesystem ∧
    m ∈ copyMounts ss ∧ m.target = "/" ∧
    s.option? "paths" = some (.list [copyPath "input://root-tree/" s!"mount://{m.name}/"])
  /-- The boot loader is written to the one partition that is for it. -/
  loader : ∀ s ∈ stagesOf "grub2.inst" ss, ∃ p rest location, t.partitions = p :: rest ∧
    p.type = .str Disk.biosBootType ∧ (∀ q ∈ rest, q.type ≠ .str Disk.biosBootType) ∧
    s.option? "location" = some (.int location) ∧ location * 512 = p.start

/-! ## Sectors -/

/-- An extent of bytes in whole sectors. -/
def inSectors (e : Extent) : Extent := ⟨sectors e.start, sectors e.size⟩

/-- Whole mebibytes are whole sectors. -/
theorem sectors_mul {n : Int} (h : mib ∣ n) : sectors n * 512 = n := by
  obtain ⟨k, rfl⟩ := h
  unfold sectors sectorSize mib
  omega

/-- Bytes that are apart are sectors that are apart. -/
theorem spaced_inSectors {a b : Int} {es : List Extent} (h : Spaced a es b) :
    Spaced (sectors a) (es.map inSectors) (sectors b) := by
  have hle : ∀ {m n : Int}, m ≤ n → sectors m ≤ sectors n := by
    intro m n hmn
    exact Int.ediv_le_ediv (by decide) hmn
  have hstop : ∀ e : Extent, (inSectors e).stop ≤ sectors e.stop := by
    intro e
    simp only [inSectors, Extent.stop, sectors, sectorSize]
    omega
  constructor
  · rw [List.pairwise_map]
    apply h.pairwise.imp
    intro e e' hapart
    exact Int.le_trans (hstop e) (hle hapart)
  · rw [List.forall_mem_map]
    intro e he
    obtain ⟨hstart, hend⟩ := h.bounds e he
    exact ⟨hle hstart, Int.le_trans (hstop e) (hle hend)⟩

theorem entryExtent?_partitionEntry (p : Partition) :
    entryExtent? (partitionEntry p) = some (inSectors p.extent) := rfl

theorem extent?_makeFilesystemStage (filename : Value) (p : Partition) (f : Filesystem) :
    (makeFilesystemStage filename p f).extent? = some (inSectors p.extent) := rfl

/-! ## Placed filesystems -/

theorem mem_placedFrom {index : Nat} {ps : List Partition} {f : PlacedFilesystem}
    (h : f ∈ placedFrom index ps) : ∃ i, f.index = index + i ∧ ps[i]? = some f.partition := by
  induction ps generalizing index with
  | nil => cases h
  | cons p ps ih =>
    unfold placedFrom at h
    have hrest : f ∈ placedFrom (index + 1) ps →
        ∃ i, f.index = index + i ∧ (p :: ps)[i]? = some f.partition := by
      intro hmem
      obtain ⟨i, hi, hp⟩ := ih hmem
      exact ⟨i + 1, by omega, by simpa using hp⟩
    cases hp : p.filesystem with
    | none =>
      rw [hp] at h
      exact hrest h
    | some g =>
      rw [hp] at h
      rcases List.mem_cons.1 h with rfl | h
      · exact ⟨0, rfl, rfl⟩
      · exact hrest h

/-- The index of a filesystem is the place of its partition in the table. -/
theorem getElem?_of_placed {t : PartitionTable} {f : PlacedFilesystem} (h : f ∈ placed t) :
    t.partitions[f.index]? = some f.partition := by
  obtain ⟨i, hi, hp⟩ := mem_placedFrom h
  rw [hi, Nat.zero_add]
  exact hp

theorem map_partition_placedFrom (index : Nat) (ps : List Partition) :
    (placedFrom index ps).map (·.partition) = ps.filter (·.filesystem.isSome) := by
  induction ps generalizing index with
  | nil => rfl
  | cons p ps ih =>
    unfold placedFrom
    cases hf : p.filesystem <;> simp [hf, ih]

/-- Partitions with filesystems are contents of the disk. -/
theorem placed_sublist_contents {t : PartitionTable}
    (h : ∀ p ∈ t.partitions, p.isExtended = true → p.filesystem = none) :
    ((placed t).map (·.partition)).Sublist t.contents := by
  have hfilter : (placed t).map (·.partition) =
      t.contents.filter (·.filesystem.isSome) := by
    rw [placed, map_partition_placedFrom, PartitionTable.contents, List.filter_filter]
    refine List.filter_congr fun p hp => ?_
    cases hext : p.isExtended with
    | false => simp
    | true => simp [h p hp hext]
  exact hfilter ▸ List.filter_sublist

/-- The name of the root is that of a filesystem that is mounted there. -/
theorem rootName_placed {t : PartitionTable} (ht : Mountable t) :
    ∃ f ∈ placed t, f.filesystem.mountpoint = "/" ∧
      rootName (placed t) = partitionName f.index := by
  obtain ⟨root, hroot, hpath⟩ := ht.root
  rw [← map_filesystem_placed] at hroot
  obtain ⟨f, hf, rfl⟩ := List.mem_map.1 hroot
  obtain ⟨g, hg⟩ : ∃ g, (placed t).reverse.find? (Value.same "/" ·.filesystem.mountpoint) =
      some g := by
    rw [← Option.isSome_iff_exists, List.find?_isSome]
    exact ⟨f, List.mem_reverse.2 hf, Value.same_str.2 hpath⟩
  have hsame : Value.same "/" g.filesystem.mountpoint = true := by simpa using List.find?_some hg
  refine ⟨g, List.mem_reverse.1 (List.mem_of_find?_eq_some hg), Value.same_str.1 hsame, ?_⟩
  rw [rootName, hg]
  rfl

/-! ## Mounts -/

theorem pairwise_insertMount (m : FilesystemMount) {ms : List FilesystemMount}
    (h : ms.Pairwise (·.length ≤ ·.length)) :
    (insertMount m ms).Pairwise (·.length ≤ ·.length) := by
  induction ms with
  | nil => exact List.pairwise_singleton ..
  | cons n ms ih =>
    obtain ⟨hn, hms⟩ := List.pairwise_cons.1 h
    unfold insertMount
    split
    · next hlt =>
      apply List.Pairwise.cons _ (ih hms)
      intro n' hn'
      rcases List.mem_cons.1 ((insertMount_perm m ms).mem_iff.1 hn') with rfl | hn'
      · exact Nat.le_of_lt hlt
      · exact hn n' hn'
    · next hle =>
      have hmn : m.length ≤ n.length := Nat.le_of_not_lt hle
      apply List.Pairwise.cons _ h
      intro n' hn'
      rcases List.mem_cons.1 hn' with rfl | hn'
      · exact hmn
      · exact Nat.le_trans hmn (hn n' hn')

theorem pairwise_sortMounts (ms : List FilesystemMount) :
    (sortMounts ms).Pairwise (·.length ≤ ·.length) := by
  induction ms with
  | nil => exact .nil
  | cons m ms ih => exact pairwise_insertMount m ih

/-- A directory is mounted before what is in it, since its path is shorter. -/
theorem not_isAbove_sortMounts (ms : List FilesystemMount) :
    (sortMounts ms).Pairwise fun m m' => ∀ path path', m.target = .str path →
      m'.target = .str path' → ¬ IsAbove path' path := by
  apply (pairwise_sortMounts ms).imp
  intro m m' hle path path' hpath hpath' habove
  have hlt := habove.length_lt
  have hlength : path.length ≤ path'.length := by
    simpa [FilesystemMount.length, Value.size?, hpath, hpath'] using hle
  omega

/-! ## Images -/

section

variable {t : PartitionTable} {filename : Value} {arch source : String} {mode : BootMode}
  {ss : List Stage}

theorem tables_imageStages (h : imageStages t filename arch mode source = .ok ss) :
    stagesOf "sfdisk" ss = [partitionStage t filename] := by
  obtain ⟨copy, hcopy, hstages⟩ := stagesOf_imageStages h "sfdisk" (by decide)
  obtain ⟨-, rfl⟩ := copyStage_eq_ok.1 hcopy
  rw [hstages, stagesOf_bootloaderInstallStages (by decide)]
  rfl

theorem loaders_imageStages (h : imageStages t filename arch mode source = .ok ss) :
    stagesOf "grub2.inst" ss = bootloaderInstallStages filename arch mode := by
  obtain ⟨copy, hcopy, hstages⟩ := stagesOf_imageStages h "grub2.inst" (by decide)
  obtain ⟨-, rfl⟩ := copyStage_eq_ok.1 hcopy
  have hall : stagesOf "grub2.inst" (bootloaderInstallStages filename arch mode) =
      bootloaderInstallStages filename arch mode :=
    List.filter_eq_self.2 fun s hs => by simp [type_of_mem_bootloaderInstallStages hs]
  rw [hstages, hall]
  rfl

theorem tableEntries_imageStages (h : imageStages t filename arch mode source = .ok ss) :
    tableEntries ss = t.partitions.map partitionEntry := by
  rw [tableEntries, tables_imageStages h]
  exact List.append_nil _

theorem copyMounts_imageStages (h : imageStages t filename arch mode source = .ok ss) :
    copyMounts ss = sortMounts ((placed t).map (·.mount)) := by
  obtain ⟨copy, hcopy, hstages⟩ := copies_imageStages h
  obtain ⟨-, rfl⟩ := copyStage_eq_ok.1 hcopy
  rw [copyMounts, hstages]
  simp [List.filterMap_map, Mount.filesystem?]

/-- What a table promises to the stages that write its image. -/
structure Addressable (t : PartitionTable) : Prop where
  mountable : Mountable t
  paths : ∀ f ∈ t.filesystems, ∃ path, f.mountpoint = .str path ∧ Disk.isClean path = true
  size_dvd : mib ∣ t.size
  aligned : ∀ p ∈ t.partitions, mib ∣ p.start ∧ mib ∣ p.size
  spaced : Spaced Disk.headerSize (t.contents.map (·.extent)) (t.size - Disk.footerSize t.label)
  empty : ∀ p ∈ t.partitions, p.isExtended = true → p.filesystem = none

theorem succeeds_imageStages (ht : Mountable t) (filename : Value) (arch : String) (mode : BootMode)
    (source : String) : Outcome.Succeeds (imageStages t filename arch mode source) := by
  obtain ⟨copy, hcopy⟩ := succeeds_copyStage ht source
  exact ⟨_, imageStages_eq_ok.2 ⟨copy, hcopy, rfl⟩⟩

theorem Addressable.apart (ht : Addressable t)
    (h : imageStages t filename arch mode source = .ok ss) :
    Spaced 2048 ((ss.filter (·.makesFilesystem)).filterMap (·.extent?))
      (match t.label with
        | .gpt => sectors t.size - 2048
        | .dos => sectors t.size) := by
  have hextents : (ss.filter (·.makesFilesystem)).filterMap (·.extent?) =
      (((placed t).map (·.partition)).map (·.extent)).map inSectors := by
    rw [makes_imageStages h, List.filterMap_map, List.map_map, List.map_map]
    exact congrFun List.filterMap_eq_map (placed t)
  have hspaced := spaced_inSectors
    (ht.spaced.sublist ((placed_sublist_contents ht.empty).map _))
  have hstop : sectors (t.size - Disk.footerSize t.label) =
      match t.label with
      | .gpt => sectors t.size - 2048
      | .dos => sectors t.size := by
    cases t.label <;> simp only [Disk.footerSize, mib, sectors, sectorSize] <;> omega
  rw [hextents, ← hstop]
  exact hspaced

/-- Each filesystem is made where its entry and its mount say. -/
theorem made_imageStages (h : imageStages t filename arch mode source = .ok ss) :
    List.Forall₂ (MakesMounted ss) (ss.filter (·.makesFilesystem)) t.filesystems := by
  rw [makes_imageStages h, ← map_filesystem_placed, List.forall₂_map_left_iff,
    List.forall₂_map_right_iff, List.forall₂_same]
  intro f hf
  refine ⟨rfl, f.index, partitionEntry f.partition, _, f.mount, ?_,
    entryExtent?_partitionEntry f.partition, extent?_makeFilesystemStage .., ?_, rfl, rfl, rfl⟩
  · rw [tableEntries_imageStages h, List.getElem?_map, getElem?_of_placed hf]
    rfl
  · rw [copyMounts_imageStages h, (sortMounts_perm _).mem_iff]
    exact List.mem_map_of_mem hf

/-- The stages that write the image of a disk agree with its table. -/
theorem Addressable.addressed (ht : Addressable t) (hloader : arch = "x86_64" →
      ∃ p rest, t.partitions = p :: rest ∧ p.start = Disk.headerSize ∧
        p.type = .str Disk.biosBootType ∧ ∀ q ∈ rest, q.type ≠ .str Disk.biosBootType)
    (h : imageStages t filename arch mode source = .ok ss) : Addressed t ss := by
  have hmounts := copyMounts_imageStages h
  have hmounted : ((copyMounts ss).map fun m => (m.target, m.type)).Perm
      (t.filesystems.map fun f => (f.mountpoint, f.type.moduleName)) := by
    rw [hmounts, ← map_filesystem_placed, List.map_map]
    refine ((sortMounts_perm _).map _).trans ?_
    rw [List.map_map]
    exact .refl _
  exact {
    file := ⟨_, truncates_imageStages h, rfl⟩
    device := ⟨_, filename, sectors t.size, tables_imageStages h, rfl, sectors_mul ht.size_dvd⟩
    entries := by
      rw [tableEntries_imageStages h, List.forall₂_map_left_iff, List.forall₂_same]
      exact fun p hp => ⟨_, entryExtent?_partitionEntry p, sectors_mul (ht.aligned p hp).1,
        sectors_mul (ht.aligned p hp).2⟩
    made := made_imageStages h
    apart := ⟨sectors t.size, sectors_mul ht.size_dvd, ht.apart h⟩
    mounted := hmounted
    once := by
      have htargets := hmounted.map (·.1)
      rw [List.map_map, List.map_map] at htargets
      exact htargets.nodup_iff.2 ht.mountable.nodup
    paths := fun m hm => by
      obtain ⟨f, hf, hfm⟩ := List.mem_map.1
        (hmounted.mem_iff.1 (List.mem_map_of_mem (f := fun m => (m.target, m.type)) hm))
      obtain ⟨htarget, -⟩ := Prod.mk.inj hfm
      exact htarget ▸ ht.paths f hf
    ordered := hmounts ▸ not_isAbove_sortMounts _
    destination := by
      obtain ⟨copy, hcopy, hstages⟩ := copies_imageStages h
      obtain ⟨-, rfl⟩ := copyStage_eq_ok.1 hcopy
      obtain ⟨f, hf, hroot, hname⟩ := rootName_placed ht.mountable
      refine ⟨_, f.mount, hstages, by rw [hmounts], ?_, hroot, ?_⟩
      · rw [hmounts, (sortMounts_perm _).mem_iff]
        exact List.mem_map_of_mem hf
      · rw [hname]
        rfl
    loader := fun s hs => by
      rw [loaders_imageStages h, bootloaderInstallStages] at hs
      split at hs
      · next hbios =>
        obtain rfl := List.mem_singleton.1 hs
        simp only [Bool.and_eq_true, beq_iff_eq] at hbios
        obtain ⟨p, rest, hparts, hstart, htype, hrest⟩ := hloader hbios.1
        exact ⟨p, rest, 2048, hparts, htype, hrest, rfl, hstart.symm⟩
      · cases hs }

end

/-! ## Planned disks -/

section

variable {σ : Type} [Source σ] {policy : MountpointPolicy} {base : PartitionTable}
  {requests : List Blueprint.FilesystemRequest} {imageSize : Int} {required : Assoc String Int}
  {strict : Bool} {source : σ} {t : PartitionTable}

/-- A planned disk promises to the stages what they need, if its base table does. -/
theorem addressable_plan (hb : Mountable base) (hext : Disk.NoExtended base.partitions)
    (hsizes : ∀ p ∈ base.partitions, mib ∣ p.size)
    (hpaths : ∀ f ∈ base.filesystems, ∃ path, f.mountpoint = .str path ∧ Disk.isClean path = true)
    (h : Disk.plan policy base requests imageSize required strict source = .ok t) :
    Addressable t := by
  obtain ⟨hsize, haligned⟩ := Disk.aligned_plan (fun p hp _ => hsizes p hp) h
  exact {
    mountable := Disk.mountable_plan hb h
    paths := Disk.exists_path_plan hpaths h
    size_dvd := hsize
    aligned := haligned
    spaced := Disk.label_plan h ▸ Disk.spaced_plan hext h
    empty := Disk.filesystem_eq_none_plan hext h }

/-- Where BIOS firmware may boot a disk, its first partition is for the boot loader. -/
theorem exists_biosBoot_plan (hb : Catalog.Fedora.defaultTable? "x86_64" = some base)
    (h : Disk.plan policy base requests imageSize required strict source = .ok t) :
    ∃ p rest, t.partitions = p :: rest ∧ p.start = Disk.headerSize ∧
      p.type = .str Disk.biosBootType ∧ ∀ q ∈ rest, q.type ≠ .str Disk.biosBootType := by
  have hext := (Catalog.Fedora.standard_of_defaultTable hb).noExtended
  obtain rfl := Option.some.inj hb
  have hothers : ∀ p ∈ [Catalog.Fedora.efiSystem, Catalog.Fedora.boot .gpt,
      Catalog.Fedora.root .gpt], p.type ≠ Catalog.Fedora.biosBoot.type := by
    simp [Catalog.Fedora.biosBoot, Catalog.Fedora.efiSystem, Catalog.Fedora.boot,
      Catalog.Fedora.root, Disk.Label.dataType, Disk.biosBootType, Disk.efiSystemType,
      Disk.linuxDataType]
  have hdata : Catalog.Fedora.biosBoot.type ≠ Disk.Label.dataType .gpt := by
    simp [Catalog.Fedora.biosBoot, Disk.Label.dataType, Disk.biosBootType, Disk.linuxDataType]
  exact Disk.exists_head_plan rfl hext h rfl (by decide) hothers hdata

/-- The stages that write the image of a planned disk agree with its table on all places, whatever
is asked for. -/
theorem addressed_plan {arch : String} (hb : Catalog.Fedora.defaultTable? arch = some base)
    (h : Disk.plan policy base requests imageSize required strict source = .ok t)
    (filename : Value) (mode : BootMode) (tree : String) :
    ∃ ss, imageStages t filename arch mode tree = .ok ss ∧ Addressed t ss := by
  have hstandard := Catalog.Fedora.standard_of_defaultTable hb
  have ht := addressable_plan hstandard.mountable hstandard.noExtended
    (Catalog.Fedora.aligned_defaultTable hb) (Catalog.Fedora.paths_defaultTable hb) h
  obtain ⟨ss, hss⟩ := succeeds_imageStages ht.mountable filename arch mode tree
  refine ⟨ss, hss, ht.addressed ?_ hss⟩
  rintro rfl
  exact exists_biosBoot_plan hb h

end

/-- A disk for BIOS and UEFI firmware, with a mountpoint above one that is asked for first. -/
theorem addressed_plan_hybrid :
    let base : PartitionTable := ⟨.gpt, [Catalog.Fedora.biosBoot, Catalog.Fedora.efiSystem,
      Catalog.Fedora.boot .gpt, Catalog.Fedora.root .gpt], "", 0⟩
    let requests : List Blueprint.FilesystemRequest := [⟨"/var/a/b", 3000⟩, ⟨"/var/a", 1⟩]
    Catalog.Fedora.defaultTable? "x86_64" = some base ∧
    ∃ t ss, Disk.plan .standard base requests (8 * Disk.gib + 1) Disk.requiredSizes false
        (Random.Twister.ofSeed 7) = .ok t ∧
      imageStages t "disk.raw" "x86_64" .hybrid "os" = .ok ss ∧ Addressed t ss := by
  intro base requests
  have hbase : Catalog.Fedora.defaultTable? "x86_64" = some base := rfl
  obtain ⟨t, hplan⟩ : ∃ t, Disk.plan .standard base requests (8 * Disk.gib + 1)
      Disk.requiredSizes false (Random.Twister.ofSeed 7) = .ok t := ⟨_, rfl⟩
  obtain ⟨ss, hss, haddressed⟩ := addressed_plan hbase hplan "disk.raw" .hybrid "os"
  exact ⟨hbase, t, ss, hplan, hss, haddressed⟩

end Imagewright.Manifest
