import Imagewright.Proofs.Disk.Logical
import Imagewright.Proofs.Disk.Paths
import Imagewright.Proofs.Disk.Tiling

/-!
# Where the filesystems of a disk lie

Partitions with filesystems lie one behind the other, whether they are inside an extended partition
or not: between the header and the end of the disk, or the copy of a GPT label there. What they are
mounted at are paths in canonical form.

## Main definitions

* `Disk.Extent`: a place on a disk.
* `Disk.Spaced`: extents one behind the other between two places.

## Main statements

* `Disk.spaced_plan`, `Disk.aligned_plan`: the places of the partitions of a planned disk.
* `Disk.filesystem_eq_none_plan`: nothing is mounted on a partition that only holds others.
* `Disk.exists_path_plan`: the mountpoints of a planned disk.
* `Disk.exists_head_plan`: what stands at the front of a planned disk.
-/
namespace Imagewright.Disk

open Catalog
open Imagewright.Random (Source)

/-! ## Extents -/

/-- A place on a disk, in bytes or in sectors. -/
structure Extent where
  start : Int
  size : Int
deriving DecidableEq, Repr

def Extent.stop (e : Extent) : Int := e.start + e.size

def Partition.extent (p : Partition) : Extent := ⟨p.start, p.size⟩

/-- Extents lie one behind the other between `start` and `stop`. -/
structure Spaced (start : Int) (es : List Extent) (stop : Int) : Prop where
  pairwise : es.Pairwise (·.stop ≤ ·.start)
  bounds : ∀ e ∈ es, start ≤ e.start ∧ e.stop ≤ stop

theorem Spaced.sublist {a b : Int} {es es' : List Extent} (h : Spaced a es b)
    (hs : es'.Sublist es) : Spaced a es' b :=
  ⟨h.pairwise.sublist hs, fun e he => h.bounds e (hs.subset he)⟩

theorem Spaced.append {a b c : Int} {es es' : List Extent} (h : Spaced a es b)
    (h' : Spaced b es' c) (hab : a ≤ b) (hbc : b ≤ c) : Spaced a (es ++ es') c where
  pairwise := List.pairwise_append.2 ⟨h.pairwise, h'.pairwise, fun e he e' he' =>
    Int.le_trans (h.bounds e he).2 (h'.bounds e' he').1⟩
  bounds := List.forall_mem_append.2
    ⟨fun e he => ⟨(h.bounds e he).1, Int.le_trans (h.bounds e he).2 hbc⟩,
      fun e he => ⟨Int.le_trans hab (h'.bounds e he).1, (h'.bounds e he).2⟩⟩

theorem Tiles.spaced {a b : Int} {ps : List Partition} (h : Tiles a ps b) :
    Spaced a (ps.map (·.extent)) b :=
  ⟨List.pairwise_map.2 h.pairwise, List.forall_mem_map.2 fun _ => h.bounds⟩

theorem Chained.spaced {a b : Int} {ps : List Partition} (h : Chained a ps b) :
    Spaced a (ps.map (·.extent)) b := by
  have hm : (0 : Int) < mib := by decide
  induction ps generalizing a with
  | nil => exact ⟨.nil, by simp⟩
  | cons p ps ih =>
    obtain ⟨hs, hp, hr⟩ := h
    have hfirst : Spaced a [p.extent] (p.start + p.size) :=
      ⟨List.pairwise_singleton .., by simp [Partition.extent, Extent.stop]; omega⟩
    exact hfirst.append (ih hr) (by omega) hr.le

/-! ## Laying out -/

/-- The contents of a disk lie one behind the other. -/
theorem spaced_layOut {base : PartitionTable} {ps : List Partition} {imageSize : Int}
    {strict : Bool} {t : PartitionTable} (h : layOut base ps imageSize strict = .ok t)
    (he : NoExtended ps) (hr : HasRoot ps) :
    Spaced headerSize (t.contents.map (·.extent)) (t.size - footerSize t.label) := by
  have htiles := tiles_layOut h he hr
  by_cases hz : logicalCount base.label ps = 0
  · have hnone := noExtended_layOut h he hz
    have htop : t.topLevel = t.contents := by
      have hany : t.partitions.any (·.isExtended) = false := by simpa [NoExtended] using hnone
      rw [PartitionTable.topLevel, if_neg (by simp [hany]), PartitionTable.contents,
        filter_noExtended hnone]
    exact htop ▸ htiles.spaced
  · -- The partitions in front of the extended one tile the disk up to it, and the logical ones
    -- follow each other inside.
    obtain ⟨first, extended, logicals, hnested⟩ := nested_layOut h he hr hz
    have hcontents : t.contents = first ++ logicals := by
      rw [PartitionTable.contents, hnested.partitions_eq, List.filter_append,
        List.filter_cons_of_neg (by simp [hnested.isExtended]), ← List.filter_append,
        filter_noExtended hnested.others]
    have htop : t.topLevel = first ++ [extended] := by
      have hany : t.partitions.any (·.isExtended) = true := by
        simp [hnested.partitions_eq, hnested.isExtended]
      rw [PartitionTable.topLevel, if_pos hany, hnested.partitions_eq, List.take_append,
        List.take_of_length_le (by rw [hnested.length_first]; decide), hnested.length_first]
      rfl
    rw [htop, tiles_append] at htiles
    obtain ⟨b, hfirst, rfl, -, hend⟩ := htiles
    rw [hcontents, List.map_append]
    have hstop : extended.start + extended.size = t.size - footerSize t.label := hend
    exact hfirst.spaced.append (hstop ▸ hnested.chained.spaced) hfirst.le
      (hstop ▸ hnested.chained.le)

/-! ## Planned disks -/

section

variable {σ : Type} [Source σ] {policy : MountpointPolicy} {base : PartitionTable}
  {requests : List Blueprint.FilesystemRequest} {imageSize : Int} {required : Assoc String Int}
  {strict : Bool} {source : σ} {t : PartitionTable}

theorem label_plan (h : plan policy base requests imageSize required strict source = .ok t) :
    t.label = base.label := by
  obtain ⟨sized, ps, table, -, -, hlay, rfl⟩ := plan_eq_ok.1 h
  obtain ⟨-, rfl⟩ := layOut_eq_ok.1 hlay
  exact congrArg (·.label) (identify_anonymous _ source)

/-- The contents of a planned disk lie one behind the other, between the header and the end of the
disk or the copy of the label there. -/
theorem spaced_plan (hb : NoExtended base.partitions)
    (h : plan policy base requests imageSize required strict source = .ok t) :
    Spaced headerSize (t.contents.map (·.extent)) (t.size - footerSize base.label) := by
  obtain ⟨sized, ps, table, -, harr, hlay, rfl⟩ := plan_eq_ok.1 h
  have hspaced := spaced_layOut hlay (noExtended_arrange harr hb) (hasRoot_arrange harr)
  obtain ⟨-, rfl⟩ := layOut_eq_ok.1 hlay
  rw [map_contents_identify (g := Partition.extent) (fun _ => rfl), size_identify]
  exact hspaced

/-- All places on a planned disk are whole mebibytes, if those are that the table fixes. -/
theorem aligned_plan (hb : ∀ p ∈ base.partitions, p.mountpoint? = none → mib ∣ p.size)
    (h : plan policy base requests imageSize required strict source = .ok t) :
    mib ∣ t.size ∧ ∀ p ∈ t.partitions, mib ∣ p.start ∧ mib ∣ p.size := by
  obtain ⟨sized, ps, table, -, harr, hlay, rfl⟩ := plan_eq_ok.1 h
  obtain ⟨hsize, hparts⟩ := aligned_layOut hlay (aligned_arrange harr hb)
  refine ⟨size_identify table source ▸ hsize, ?_⟩
  have hextents : ∀ e ∈ ((identify table).run source).1.partitions.map (·.extent),
      mib ∣ e.start ∧ mib ∣ e.size := by
    rw [map_partitions_identify (g := Partition.extent) (fun _ => rfl)]
    exact List.forall_mem_map.2 hparts
  exact List.forall_mem_map.1 hextents

/-- A partition that only holds others has no filesystem. -/
theorem filesystem_eq_none_plan (hb : NoExtended base.partitions)
    (h : plan policy base requests imageSize required strict source = .ok t) :
    ∀ p ∈ t.partitions, p.isExtended = true → p.filesystem = none := by
  obtain ⟨sized, ps, table, -, harr, hlay, rfl⟩ := plan_eq_ok.1 h
  have hnone := filesystem_eq_none_layOut hlay (noExtended_arrange harr hb)
  have hpairs : ∀ x ∈ ((identify table).run source).1.partitions.map
      (fun p => (p.isExtended, p.filesystem.isNone)), x.1 = true → x.2 = true := by
    rw [map_partitions_identify (fun p => by simp)]
    exact List.forall_mem_map.2 fun p hp hext => by simp [hnone p hp hext]
  simpa using hpairs

/-! ## Mountpoints -/

theorem distinct_eq_nil_iff {texts : List String} : distinct texts = [] ↔ texts = [] := by
  cases texts <;> simp [distinct, distinctFrom]

/-- Mountpoints that pass their check are paths in canonical form. -/
theorem isClean_of_checkMountpoints {sized : List SizedPath}
    (h : checkMountpoints policy requests = .ok sized) : ∀ s ∈ sized, isClean s.path = true := by
  simp only [checkMountpoints, Outcome.bind_eq_ok, Outcome.pure_eq_ok] at h
  obtain ⟨_, -, _, hpaths, rfl⟩ := h
  dsimp only [checkPaths] at hpaths
  split at hpaths
  · cases hpaths
  · next hdirty =>
    simp only [Bool.not_eq_true', Bool.not_eq_false, List.isEmpty_iff, distinct_eq_nil_iff,
      List.filter_eq_nil_iff, List.forall_mem_map] at hdirty
    simpa using hdirty

/-- The filesystems of a planned disk are mounted at paths in canonical form, if those of the base
table are. -/
theorem exists_path_plan
    (hb : ∀ f ∈ base.filesystems, ∃ path, f.mountpoint = .str path ∧ isClean path = true)
    (h : plan policy base requests imageSize required strict source = .ok t) :
    ∀ f ∈ t.filesystems, ∃ path, f.mountpoint = .str path ∧ isClean path = true := by
  obtain ⟨sized, hcheck, hperm⟩ := filesystems_plan h
  intro f hf
  rw [← Filesystem.anonymous_mountpoint]
  rcases mem_filesystems_plan hperm hf with ⟨g, hg, hgf⟩ | ⟨path, hpath, hnew⟩
  · rw [← hgf]
    exact hb g hg
  · rw [newPaths_eq, List.mem_filter, List.mem_eraseDups] at hpath
    obtain ⟨s, hs, rfl⟩ := List.mem_map.1 hpath.1
    rw [← hnew]
    exact ⟨s.path, rfl, isClean_of_checkMountpoints hcheck s hs⟩

/-! ## The front of the disk -/

theorem start_of_place {a : Int} {inside : Bool} {ps rest : List Partition} {p : Partition}
    (h : place a inside ps = p :: rest) : p.start = a := by
  cases ps with
  | nil => cases h
  | cons q ps => rw [← (List.cons.inj h).1]

/-- The first partition follows the header. -/
theorem start_head_plan (h : plan policy base requests imageSize required strict source = .ok t)
    {p : Partition} {rest : List Partition} (hp : t.partitions = p :: rest) :
    p.start = headerSize := by
  obtain ⟨sized, ps, table, -, -, hlay, rfl⟩ := plan_eq_ok.1 h
  have hstarts := map_partitions_identify (g := Partition.start) (fun _ => rfl) table source
  obtain ⟨-, rfl⟩ := layOut_eq_ok.1 hlay
  rw [hp, List.map_cons] at hstarts
  obtain ⟨q, qs, hplaced, hq, -⟩ := List.map_eq_cons_iff.1 hstarts.symm
  rw [← hq, start_of_place hplaced]

/-- A disk with a GPT label has no partition that only holds others. -/
theorem noExtended_plan (hl : base.label = .gpt) (hb : NoExtended base.partitions)
    (h : plan policy base requests imageSize required strict source = .ok t) :
    NoExtended t.partitions := by
  obtain ⟨sized, ps, table, -, harr, hlay, rfl⟩ := plan_eq_ok.1 h
  have hz : logicalCount base.label ps = 0 := by simp [hl, logicalCount]
  exact noExtended_identify (noExtended_layOut hlay (noExtended_arrange harr hb) hz) source

/-- New partitions are in front of the root partition and hold data. So what is first in the base
table, and is not the root partition, stays first. -/
theorem cons_arrange {sized : List SizedPath} {ps rest : List Partition} {first : Partition}
    (h : arrange base sized required = .ok ps) (hbase : base.partitions = first :: rest)
    (hroot : first.isMountedAt "/" = false) :
    ∃ rest', ps = growExisting (largestRequests sized) required first :: rest' ∧
      ∀ q ∈ rest', q.type = base.label.dataType ∨ ∃ p ∈ rest, q.type = p.type := by
  obtain ⟨before, root, after, hsplit, hmounted, -, rfl⟩ := arrange_split h
  rw [hbase] at hsplit
  obtain ⟨before, rfl, rfl⟩ : ∃ before', before = first :: before' ∧
      rest = before' ++ root :: after := by
    cases before with
    | nil =>
      obtain ⟨rfl, -⟩ := List.cons.inj hsplit
      rw [hmounted] at hroot
      cases hroot
    | cons p before' =>
      obtain ⟨rfl, hrest⟩ := List.cons.inj hsplit
      exact ⟨before', rfl, hrest⟩
  refine ⟨before.map (growExisting (largestRequests sized) required) ++
    added base sized required ++ growExisting (largestRequests sized) required root ::
      after.map (growExisting (largestRequests sized) required), rfl, fun q hq => ?_⟩
  simp only [List.mem_append, List.mem_cons, List.mem_map] at hq
  rcases hq with (⟨p, hp, rfl⟩ | hq) | rfl | ⟨p, hp, rfl⟩
  · exact .inr ⟨p, List.mem_append_left _ hp, growExisting_type ..⟩
  · obtain ⟨r, -, rfl⟩ := List.mem_map.1 hq
    exact .inl rfl
  · exact .inr ⟨root, List.mem_append_right _ List.mem_cons_self, growExisting_type ..⟩
  · exact .inr ⟨p, List.mem_append_right _ (List.mem_cons_of_mem _ hp), growExisting_type ..⟩

/-- The first partition of a GPT table follows the header of a planned disk. If neither the others
nor those of data have its type, it is the only one of its type there, too. -/
theorem exists_head_plan (hl : base.label = .gpt) (hb : NoExtended base.partitions)
    (h : plan policy base requests imageSize required strict source = .ok t) {first : Partition}
    {rest : List Partition} (hbase : base.partitions = first :: rest)
    (hroot : first.isMountedAt "/" = false) (hrest : ∀ p ∈ rest, p.type ≠ first.type)
    (hdata : first.type ≠ base.label.dataType) :
    ∃ p rest', t.partitions = p :: rest' ∧ p.start = headerSize ∧ p.type = first.type ∧
      ∀ q ∈ rest', q.type ≠ first.type := by
  obtain ⟨sized, ps, -, harr, -, -, hcontents⟩ := contents_plan hb h
  have htypes := hcontents (g := Partition.type) (fun _ => rfl) fun _ _ => rfl
  obtain ⟨rest₀, rfl, hrest₀⟩ := cons_arrange harr hbase hroot
  rw [map_growRoot (fun _ _ => rfl), PartitionTable.contents,
    filter_noExtended (noExtended_plan hl hb h), List.map_cons, growExisting_type] at htypes
  obtain ⟨p, rest', hparts, hp, hrest'⟩ := List.map_eq_cons_iff.1 htypes
  refine ⟨p, rest', hparts, start_head_plan h hparts, hp, fun q hq => ?_⟩
  have hmem : q.type ∈ rest₀.map Partition.type := hrest' ▸ List.mem_map_of_mem hq
  obtain ⟨q₀, hq₀, hsame⟩ := List.mem_map.1 hmem
  rw [← hsame]
  rcases hrest₀ q₀ hq₀ with htype | ⟨p₀, hp₀, htype⟩
  · exact htype ▸ hdata.symm
  · exact htype ▸ hrest p₀ hp₀

end

end Imagewright.Disk
