import Imagewright.Proofs.Assoc
import Imagewright.Proofs.Disk.Steps

/-!
# Filesystems of planned disks

Planning puts the filesystems of new mountpoints in front of the root filesystem and changes no
other filesystem but for its identifier. So what a base table promises about its mountpoints and
labels, the planned table keeps.

## Main definitions

* `Disk.Mountable`: the filesystems of a table are mounted at different paths, one at the root.
* `Disk.RootLabel`: a label marks the root filesystem.

## Main statements

* `Disk.filesystems_plan`: the filesystems of a planned disk.
* `Disk.mountable_plan`, `Disk.rootLabel_plan`: what planning keeps.
* `Disk.Mountable.find?`: in a mountable table a path leads to its filesystem.
-/
namespace Imagewright

theorem Value.same_str {s : String} {v : Value} : Value.same (.str s) v = true ↔ v = .str s := by
  cases v with
  | str t => simpa [Value.same] using eq_comm
  | _ => simp [Value.same]

namespace Disk

open Imagewright.Random (Source)

/-- The filesystems of partitions, in their order. -/
def filesystemsOf (ps : List Partition) : List Filesystem := ps.filterMap (·.filesystem)

theorem filesystemsOf_append (ps qs : List Partition) :
    filesystemsOf (ps ++ qs) = filesystemsOf ps ++ filesystemsOf qs := List.filterMap_append

/-- What keeps the filesystem of each partition keeps the filesystems of all. -/
theorem filesystemsOf_congr {ps qs : List Partition}
    (h : ps.map (·.filesystem) = qs.map (·.filesystem)) :
    filesystemsOf ps = filesystemsOf qs := by
  have key : ∀ rs : List Partition, filesystemsOf rs = (rs.map (·.filesystem)).filterMap id :=
    fun rs => by rw [List.filterMap_map]; rfl
  rw [key, key, h]

theorem filesystems_anonymous (t : PartitionTable) :
    t.anonymous.filesystems = t.filesystems.map Filesystem.anonymous := by
  simp [PartitionTable.filesystems, PartitionTable.anonymous, List.filterMap_map, Function.comp_def,
    List.map_filterMap]

/-! ## The steps of planning -/

def newFilesystem (path : String) : Filesystem := { type := .ext4, mountpoint := path }

/-- The paths that a table has no filesystem for. -/
def newPaths (base : PartitionTable) (requests : List SizedPath) : List String :=
  ((largestRequests requests).keys).filter fun path => (base.findIdx? path).isNone

theorem filesystemsOf_added (base : PartitionTable) (requests : List SizedPath)
    (required : Assoc String Int) :
    filesystemsOf (added base requests required) = (newPaths base requests).map newFilesystem := by
  simp [filesystemsOf, added, newPaths, newFilesystem, newPartition, Assoc.keys,
    List.filter_map, Function.comp_def]

theorem filesystemsOf_arrange {base : PartitionTable} {requests : List SizedPath}
    {required : Assoc String Int} {ps : List Partition}
    (h : arrange base requests required = .ok ps) :
    ∃ before after, base.filesystems = before ++ after ∧
      filesystemsOf ps = before ++ (newPaths base requests).map newFilesystem ++ after := by
  obtain ⟨-, root, -, rfl⟩ := arrange_eq_ok.1 h
  have hgrown : ∀ qs : List Partition, filesystemsOf
      (qs.map (growExisting (largestRequests requests) required)) = filesystemsOf qs := fun qs =>
    filesystemsOf_congr (by simp [growExisting_filesystem])
  refine ⟨filesystemsOf (base.partitions.take root), filesystemsOf (base.partitions.drop root),
    ?_, ?_⟩
  · rw [← filesystemsOf_append, List.take_append_drop]
    rfl
  · rw [filesystemsOf_append, filesystemsOf_append, filesystemsOf_added, grown, ← List.map_take,
      ← List.map_drop, hgrown, hgrown]

theorem filesystemsOf_nest (logical : Nat) (ps : List Partition) :
    filesystemsOf (nest logical ps) = filesystemsOf ps := by
  unfold nest
  simp only
  split
  · rw [filesystemsOf_append]
    have : ∀ l h qs, filesystemsOf (extendedAround l h :: qs) = filesystemsOf qs := fun _ _ _ => rfl
    rw [this, ← filesystemsOf_append, List.take_append_drop]
  · rfl

theorem filesystems_layOut {base : PartitionTable} {ps : List Partition} {imageSize : Int}
    {strict : Bool} {t : PartitionTable} (h : layOut base ps imageSize strict = .ok t) :
    t.filesystems = filesystemsOf ps := by
  obtain ⟨-, rfl⟩ := layOut_eq_ok.1 h
  have hgrow := filesystemsOf_congr
    (map_growRoot (fun _ _ => rfl) (alignUp imageSize - neededSize base.label ps).toNat ps)
  refine (filesystemsOf_congr (map_place (fun _ _ => rfl) _)).trans ?_
  split
  · exact hgrow
  · rw [filesystemsOf_nest, hgrow]

/-- A partition that holds logical ones has no filesystem. -/
theorem filesystem_eq_none_layOut {base : PartitionTable} {ps : List Partition} {imageSize : Int}
    {strict : Bool} {t : PartitionTable} (h : layOut base ps imageSize strict = .ok t)
    (he : NoExtended ps) : ∀ p ∈ t.partitions, p.isExtended = true → p.filesystem = none := by
  obtain ⟨-, rfl⟩ := layOut_eq_ok.1 h
  have hgrow := noExtended_growRoot (alignUp imageSize - neededSize base.label ps).toNat he
  intro p hp hext
  have hmem := List.mem_map_of_mem (f := fun q : Partition => (q.isExtended, q.filesystem)) hp
  rw [map_place fun _ _ => rfl] at hmem
  obtain ⟨q, hq, hsame⟩ := List.mem_map.1 hmem
  obtain ⟨hq_ext, hq_fs⟩ := Prod.mk.inj hsame
  have hold : q ∉ growRoot (alignUp imageSize - neededSize base.label ps).toNat ps := fun hold => by
    rw [← hq_ext, hgrow q hold] at hext
    cases hext
  split at hq
  · exact absurd hq hold
  · obtain ⟨_, rfl⟩ := (mem_nest hq).resolve_left hold
    exact hq_fs.symm

section

variable {σ : Type} [Source σ] {policy : MountpointPolicy} {base : PartitionTable}
  {requests : List Blueprint.FilesystemRequest} {imageSize : Int} {required : Assoc String Int}
  {strict : Bool} {source : σ} {t : PartitionTable}

/-- Each filesystem of a planned disk has an identifier. -/
theorem truthy_uuid_plan (hb : NoExtended base.partitions)
    (h : plan policy base requests imageSize required strict source = .ok t) :
    ∀ f ∈ t.filesystems, f.uuid.truthy = true := by
  obtain ⟨sized, ps, table, -, harr, hlay, rfl⟩ := plan_eq_ok.1 h
  exact truthy_identify (filesystem_eq_none_layOut hlay (noExtended_arrange harr hb)) source

/-- The filesystems of a planned disk are those of the base table and the new ones, up to
identifiers. -/
theorem filesystems_plan
    (h : plan policy base requests imageSize required strict source = .ok t) :
    ∃ sized, checkMountpoints policy requests = .ok sized ∧
      (t.filesystems.map Filesystem.anonymous).Perm
        ((base.filesystems ++ (newPaths base sized).map newFilesystem).map
          Filesystem.anonymous) := by
  obtain ⟨sized, ps, table, hcheck, harr, hlay, rfl⟩ := plan_eq_ok.1 h
  obtain ⟨before, after, hbase, hps⟩ := filesystemsOf_arrange harr
  refine ⟨sized, hcheck, ?_⟩
  rw [← filesystems_anonymous, identify_anonymous, filesystems_anonymous, filesystems_layOut hlay,
    hps, hbase]
  refine List.Perm.map _ ?_
  rw [List.append_assoc, List.append_assoc]
  exact List.perm_append_comm.append_left _

end

/-! ## What planning keeps -/

/-- The filesystems of a table are mounted at different paths, one of them at the root. -/
structure Mountable (t : PartitionTable) : Prop where
  texts : ∀ f ∈ t.filesystems, ∃ path : String, f.mountpoint = path
  nodup : (t.filesystems.map (·.mountpoint)).Nodup
  root : ∃ f ∈ t.filesystems, f.mountpoint = "/"

/-- A label marks the root filesystem. -/
def RootLabel (label : String) (t : PartitionTable) : Prop :=
  ∀ f ∈ t.filesystems, f.label = label ↔ f.mountpoint = "/"

theorem isMountedAt_iff {p : Partition} {path : String} :
    p.isMountedAt path = true ↔ ∃ f, p.filesystem = some f ∧ f.mountpoint = path := by
  cases hf : p.filesystem with
  | none => simp [Partition.isMountedAt, Partition.mountpoint?, hf]
  | some f =>
    simp only [Partition.isMountedAt, Partition.mountpoint?, hf, Option.map_some, Option.some.injEq,
      exists_eq_left']
    cases hn : f.mountpoint.isNull with
    | true => cases hm : f.mountpoint <;> simp_all [Value.isNull, Option.filter]
    | false => simp [Option.filter, hn, Value.same_str]

/-- In a mountable table a path leads to the filesystem that is mounted there. -/
theorem Mountable.find? {t : PartitionTable} (h : Mountable t) {f : Filesystem}
    (hf : f ∈ t.filesystems) {path : String} (hpath : f.mountpoint = path) :
    ∃ p, t.find? path = some p ∧ p.filesystem = some f := by
  obtain ⟨p, hp, hpf⟩ := List.mem_filterMap.1 hf
  obtain ⟨q, hq⟩ : ∃ q, t.find? path = some q := by
    rw [← Option.isSome_iff_exists, PartitionTable.find?, List.find?_isSome]
    exact ⟨p, hp, isMountedAt_iff.2 ⟨f, hpf, hpath⟩⟩
  have hmounted : q.isMountedAt path = true := by
    have := List.find?_some hq
    exact this
  obtain ⟨g, hqg, hg⟩ := isMountedAt_iff.1 hmounted
  have hmem : g ∈ t.filesystems := List.mem_filterMap.2 ⟨q, List.mem_of_find?_eq_some hq, hqg⟩
  obtain rfl : g = f := List.inj_on_of_nodup_map h.nodup hmem hf (hg.trans hpath.symm)
  exact ⟨q, hq, hqg⟩

theorem nodup_keys_largestRequests (requests : List SizedPath) :
    (largestRequests requests).keys.Nodup :=
  List.foldlRecOn (motive := fun sizes : Assoc String Int => sizes.keys.Nodup) requests _
    List.nodup_nil fun _ h r _ => Assoc.nodup_keys_set h r.path _

theorem nodup_newPaths (base : PartitionTable) (requests : List SizedPath) :
    (newPaths base requests).Nodup := (nodup_keys_largestRequests requests).filter _

/-- A new path is not the mountpoint of a filesystem of the table. -/
theorem ne_of_mem_newPaths {base : PartitionTable} {requests : List SizedPath} {path : String}
    (h : path ∈ newPaths base requests) {f : Filesystem} (hf : f ∈ base.filesystems) :
    f.mountpoint ≠ path := by
  intro hpath
  obtain ⟨p, hp, hpf⟩ := List.mem_filterMap.1 hf
  have hnone := (List.mem_filter.1 h).2
  rw [PartitionTable.findIdx?, Option.isNone_iff_eq_none, List.findIdx?_eq_none_iff] at hnone
  have := hnone p hp
  rw [isMountedAt_iff.2 ⟨f, hpf, hpath⟩] at this
  cases this

section

variable {σ : Type} [Source σ] {policy : MountpointPolicy} {base : PartitionTable}
  {requests : List Blueprint.FilesystemRequest} {imageSize : Int} {required : Assoc String Int}
  {strict : Bool} {source : σ} {t : PartitionTable}

theorem mem_filesystems_plan {sized : List SizedPath}
    (h : (t.filesystems.map Filesystem.anonymous).Perm
      ((base.filesystems ++ (newPaths base sized).map newFilesystem).map Filesystem.anonymous))
    {f : Filesystem} (hf : f ∈ t.filesystems) :
    (∃ g ∈ base.filesystems, g.anonymous = f.anonymous) ∨
      ∃ path ∈ newPaths base sized, (newFilesystem path).anonymous = f.anonymous := by
  have := h.mem_iff.1 (List.mem_map_of_mem hf)
  simpa [or_comm] using this

/-- The mountpoints of a table are mountpoints of the planned one. -/
theorem exists_mountpoint_plan {path : String} (hb : ∃ g ∈ base.filesystems, g.mountpoint = path)
    (h : plan policy base requests imageSize required strict source = .ok t) :
    ∃ f ∈ t.filesystems, f.mountpoint = path := by
  obtain ⟨sized, -, hperm⟩ := filesystems_plan h
  obtain ⟨g, hg, hpath⟩ := hb
  obtain ⟨f, hf, hfg⟩ := List.mem_map.1 (hperm.mem_iff.2
    (List.mem_map_of_mem (List.mem_append_left _ hg)))
  exact ⟨f, hf, (congrArg (·.mountpoint) hfg).trans hpath⟩

/-- Planning keeps the mountpoints of a table apart. -/
theorem mountable_plan (hb : Mountable base)
    (h : plan policy base requests imageSize required strict source = .ok t) : Mountable t := by
  obtain ⟨sized, -, hperm⟩ := filesystems_plan h
  have hpoints : (t.filesystems.map (·.mountpoint)).Perm
      (base.filesystems.map (·.mountpoint) ++ (newPaths base sized).map Value.str) := by
    simpa [Function.comp_def, newFilesystem] using hperm.map (·.mountpoint)
  refine ⟨fun f hf => ?_, ?_, ?_⟩
  · have := hpoints.mem_iff.1 (List.mem_map_of_mem (f := (·.mountpoint)) hf)
    rcases List.mem_append.1 this with hm | hm
    · obtain ⟨g, hg, hgf⟩ := List.mem_map.1 hm
      exact hgf ▸ hb.texts g hg
    · obtain ⟨path, -, hpath⟩ := List.mem_map.1 hm
      exact ⟨path, hpath.symm⟩
  · rw [hpoints.nodup_iff, List.nodup_append]
    refine ⟨hb.nodup, (nodup_newPaths base sized).map fun _ _ => Value.str.inj, ?_⟩
    rintro m hm _ hpath rfl
    obtain ⟨g, hg, rfl⟩ := List.mem_map.1 hm
    obtain ⟨path, hnew, hpath⟩ := List.mem_map.1 hpath
    exact ne_of_mem_newPaths hnew hg hpath.symm
  · exact exists_mountpoint_plan hb.root h

theorem Mountable.hasRoot (hb : Mountable base) : HasRoot base.partitions := by
  obtain ⟨f, hf, hroot⟩ := hb.root
  obtain ⟨p, hp, hpf⟩ := List.mem_filterMap.1 hf
  exact ⟨p, hp, isMountedAt_iff.2 ⟨f, hpf, hroot⟩⟩

theorem Mountable.isAtomic (hb : Mountable base) : ∀ m ∈ base.mountpoints, m.isAtomic = true := by
  intro m hm
  obtain ⟨p, hp, hpm⟩ := List.mem_filterMap.1 hm
  rw [Partition.mountpoint?, Option.filter_eq_some_iff, Option.map_eq_some_iff] at hpm
  obtain ⟨⟨f, hf, rfl⟩, -⟩ := hpm
  obtain ⟨path, hpath⟩ := hb.texts f (List.mem_filterMap.2 ⟨p, hp, hf⟩)
  rw [hpath]
  rfl

/-- A mountable table can be planned with mountpoints that pass their check, unless a strict size
is too small. -/
theorem plan_or_insufficient (hb : Mountable base) {sized : List SizedPath}
    (hc : checkMountpoints policy requests = .ok sized) (imageSize : Int)
    (required : Assoc String Int) (strict : Bool) (source : σ) :
    ∃ ps, arrange base sized required = .ok ps ∧
      (Outcome.Succeeds (plan policy base requests imageSize required strict source) ∨
        strict = true ∧ alignUp imageSize < neededSize base.label ps ∧
          plan policy base requests imageSize required strict source =
            .error (.insufficient (neededSize base.label ps) imageSize)) := by
  obtain ⟨ps, hps⟩ := succeeds_arrange hb.hasRoot hb.isAtomic sized required
  refine ⟨ps, hps, ?_⟩
  rw [plan_of_arrange hc hps]
  cases hlay : layOut base ps imageSize strict with
  | ok t => exact .inl ⟨_, rfl⟩
  | error e =>
    obtain ⟨hstrict, hlt, rfl⟩ := layOut_eq_error.1 hlay
    exact .inr ⟨hstrict, hlt, rfl⟩

/-- New filesystems have no label, so a label that marks the root filesystem goes on to do so. -/
theorem rootLabel_plan {label : String} (hl : label ≠ "") (hb : RootLabel label base)
    (hm : Mountable base) (h : plan policy base requests imageSize required strict source = .ok t) :
    RootLabel label t := by
  obtain ⟨sized, -, hperm⟩ := filesystems_plan h
  intro f hf
  rcases mem_filesystems_plan hperm hf with ⟨g, hg, hgf⟩ | ⟨path, hpath, hnew⟩
  · rw [← Filesystem.anonymous_label f, ← Filesystem.anonymous_mountpoint f, ← hgf]
    exact hb g hg
  · rw [← Filesystem.anonymous_label f, ← Filesystem.anonymous_mountpoint f, ← hnew]
    obtain ⟨g, hg, hroot⟩ := hm.root
    have hne : path ≠ "/" := fun he => ne_of_mem_newPaths hpath hg (he ▸ hroot)
    simp [newFilesystem, hne, hl.symm]

end

end Disk
end Imagewright
