import Imagewright.Proofs.Disk.Filesystems
import Imagewright.Proofs.FirstOccurrences
import Imagewright.Catalog.Fedora.Tables
import Imagewright.Random.Twister

/-!
# What planned disks hold

Planning loses no partition, doubles none and shrinks none. Up to the extended partition around
logical ones, a planned disk holds the partitions of its base table in their order, and in front of
the root partition one partition for each new mountpoint. Every size is the least one that does for
what is asked for, but for the root partition, which has the rest of the disk.

## Main definitions

* `Disk.Partition.traits`: what a partition is, whatever its size and its place.
* `Disk.largestFor`, `Disk.demand`: the size that is asked for at a path.
* `Disk.PartitionTable.contents`: the partitions that hold something themselves.
* `Disk.Composition`: the contents of a planned table.

## Main statements

* `Disk.get?_largestRequests`, `Disk.keys_largestRequests`: requests that are put together.
* `Disk.composition_plan`: a planned table has the contents that were asked for.
-/
namespace Imagewright.Disk

open Catalog
open FirstOccurrences (eraseDups_concat)
open Imagewright.Random (Source)

/-! ## Requests that are put together -/

/-- The largest size that is asked for at a path, zero if none is. -/
def largestFor (requests : List SizedPath) (path : String) : Int :=
  ((requests.filter (·.path == path)).map fun r => (r.minSize : Int)).foldl max 0

theorem largestRequests_concat (requests : List SizedPath) (r : SizedPath) :
    largestRequests (requests ++ [r]) = (largestRequests requests).set r.path
      (max (((largestRequests requests).get? r.path).getD 0) r.minSize) := by
  simp only [largestRequests, List.foldl_append, List.foldl_cons, List.foldl_nil]

/-- Each path is asked for once, in the order of the first requests. -/
theorem keys_largestRequests (requests : List SizedPath) :
    (largestRequests requests).keys = (requests.map (·.path)).eraseDups := by
  induction requests using List.reverseRecOn with
  | nil => rfl
  | append_singleton rest r ih =>
    have hmem : (largestRequests rest).contains r.path = true ↔ r.path ∈ rest.map (·.path) := by
      rw [Assoc.contains_iff, ih, List.mem_eraseDups]
    rw [largestRequests_concat, Assoc.keys_set, List.map_append, List.map_singleton,
      eraseDups_concat, ih]
    simp only [hmem]

theorem get?_largestRequests (requests : List SizedPath) (path : String) :
    ((largestRequests requests).get? path).getD 0 = largestFor requests path := by
  induction requests using List.reverseRecOn with
  | nil => rfl
  | append_singleton rest r ih =>
    rw [largestRequests_concat]
    by_cases h : r.path = path
    · subst h
      simp [largestFor, ih]
    · rw [Assoc.get?_set_ne _ _ h, ih]
      simp [largestFor, h]

/-- What is asked for and what is required at a mountpoint. -/
def demand (requests : List SizedPath) (required : Assoc String Int) : Value → Int
  | .str path => max (largestFor requests path) ((required.get? path).getD 0)
  | _ => 0

theorem max_sizeAt (requests : List SizedPath) (required : Assoc String Int) (m : Value) :
    max (sizeAt (largestRequests requests) m) (sizeAt required m) = demand requests required m := by
  cases m with
  | str path => simp only [sizeAt, demand, get?_largestRequests]
  | _ => rfl

/-- The new paths are those that are asked for and that the table has no partition for. -/
theorem newPaths_eq (base : PartitionTable) (requests : List SizedPath) :
    newPaths base requests =
      (requests.map (·.path)).eraseDups.filter fun path => (base.findIdx? path).isNone := by
  rw [newPaths, keys_largestRequests]

/-- Requests that pass their check are for paths that are texts. -/
theorem eq_map_of_checkMountpoints {policy : MountpointPolicy}
    {requests : List Blueprint.FilesystemRequest} {sized : List SizedPath}
    (h : checkMountpoints policy requests = .ok sized) :
    requests = sized.map fun s => ⟨.str s.path, s.minSize⟩ := by
  simp only [checkMountpoints, Outcome.bind_eq_ok, Outcome.pure_eq_ok, Outcome.mapM_eq_ok] at h
  obtain ⟨_, hall, -, -, rfl⟩ := h
  induction hall with
  | nil => rfl
  | @cons r s _ _ hr _ ih =>
    obtain ⟨mountpoint, minSize⟩ := r
    cases mountpoint with
    | str path =>
      obtain rfl := Except.ok.inj hr
      rw [List.map_cons, ← ih]
    | _ => cases hr

/-! ## Traits and sizes -/

/-- What a partition is, whatever its size, its place and its identifiers. -/
def Partition.traits (p : Partition) : Value × Value × Option Filesystem :=
  (p.type, p.bootable, p.filesystem.map Filesystem.anonymous)

/-- The traits of a partition for a new mountpoint. -/
def newTraits (label : Label) (path : String) : Value × Value × Option Filesystem :=
  (label.dataType, .bool false, some (newFilesystem path))

/-- The size of a partition of the base table, before the rest of the disk is given away. -/
def plannedSize (requests : List SizedPath) (required : Assoc String Int) (p : Partition) : Int :=
  match p.mountpoint? with
  | none => p.size
  | some m => alignUp (max p.size (demand requests required m))

/-- The size of a partition for a new mountpoint. -/
def newSize (requests : List SizedPath) (required : Assoc String Int) (path : String) : Int :=
  alignUp (max mib (demand requests required path))

@[simp] theorem Partition.traits_anonymous (p : Partition) : p.anonymous.traits = p.traits := by
  cases hf : p.filesystem <;> simp [Partition.traits, Partition.anonymous, hf, Filesystem.anonymous]

section

variable {requests : List SizedPath} {required : Assoc String Int}

theorem size_growExisting (p : Partition) :
    (growExisting (largestRequests requests) required p).size =
      plannedSize requests required p := by
  unfold growExisting plannedSize
  cases p.mountpoint? with
  | none => rfl
  | some m =>
    have h := le_alignUp (max p.size (demand requests required m))
    simp only [Partition.growTo_size, max_sizeAt]
    omega

theorem traits_growExisting (p : Partition) :
    (growExisting (largestRequests requests) required p).traits = p.traits := by
  unfold growExisting
  split <;> rfl

@[simp] theorem Partition.traits_growBy (p : Partition) (extra : Nat) :
    (p.growBy extra).traits = p.traits := rfl

theorem isMountedAt_growExisting (p : Partition) (path : String) :
    (growExisting (largestRequests requests) required p).isMountedAt path = p.isMountedAt path := by
  rw [Partition.isMountedAt, Partition.mountpoint?, growExisting_filesystem]
  rfl

theorem map_traits_added (base : PartitionTable) :
    (added base requests required).map (·.traits) =
      (newPaths base requests).map (newTraits base.label) := by
  simp [added, newPaths, Assoc.keys, List.filter_map, Function.comp_def, newPartition,
    Partition.traits, newTraits, newFilesystem, Filesystem.anonymous]

/-- The new partitions, path by path. -/
theorem added_eq (base : PartitionTable) :
    added base requests required = (newPaths base requests).map fun path =>
      newPartition base.label required path (largestFor requests path) := by
  have hpaths : newPaths base requests =
      ((largestRequests requests).filter fun r => (base.findIdx? r.1).isNone).map (·.1) := by
    simp [newPaths, Assoc.keys, List.filter_map, Function.comp_def]
  rw [hpaths, added, List.map_map]
  refine List.map_congr_left fun r hr => ?_
  have hget : (largestRequests requests).get? r.1 = some r.2 :=
    (Assoc.get?_eq_some_iff (nodup_keys_largestRequests requests)).2 (List.mem_filter.1 hr).1
  have hsize : r.2 = largestFor requests r.1 := by
    rw [← get?_largestRequests, hget]
    rfl
  rw [Function.comp_apply, ← hsize]

theorem map_size_added (base : PartitionTable) :
    (added base requests required).map (·.size) =
      (newPaths base requests).map (newSize requests required) := by
  rw [added_eq, List.map_map]
  refine List.map_congr_left fun path _ => ?_
  simp only [Function.comp_apply, newPartition, newSize, demand]
  congr 1
  omega

/-- The arranged partitions, at the place of the root partition. -/
theorem arrange_split {base : PartitionTable} {ps : List Partition}
    (h : arrange base requests required = .ok ps) :
    ∃ before root after, base.partitions = before ++ root :: after ∧
      root.isMountedAt "/" = true ∧ (∀ p ∈ before, p.isMountedAt "/" = false) ∧
      ps = before.map (growExisting (largestRequests requests) required) ++
        added base requests required ++
        growExisting (largestRequests requests) required root ::
          after.map (growExisting (largestRequests requests) required) := by
  obtain ⟨-, i, hi, rfl⟩ := arrange_eq_ok.1 h
  obtain ⟨hlt, hroot, hfirst⟩ := List.findIdx?_eq_some_iff_getElem.1 hi
  refine ⟨base.partitions.take i, base.partitions[i], base.partitions.drop (i + 1), ?_, hroot, ?_,
    ?_⟩
  · rw [← List.drop_eq_getElem_cons hlt, List.take_append_drop]
  · intro p hp
    obtain ⟨j, hj, rfl⟩ := List.mem_take_iff_getElem.1 hp
    simpa using hfirst j (by omega)
  · rw [grown, ← List.map_take, ← List.map_drop, List.drop_eq_getElem_cons hlt, List.map_cons]

/-- The root is no new mountpoint. -/
theorem isMountedAt_root_added {base : PartitionTable} {root : Partition}
    (hmem : root ∈ base.partitions) (hroot : root.isMountedAt "/" = true) :
    ∀ p ∈ added base requests required, p.isMountedAt "/" = false := by
  intro p hp
  obtain ⟨r, hr, rfl⟩ := List.mem_map.1 hp
  have hnone := (List.mem_filter.1 hr).2
  rw [PartitionTable.findIdx?, Option.isNone_iff_eq_none, List.findIdx?_eq_none_iff] at hnone
  refine Bool.eq_false_iff.2 fun hnew => ?_
  have hpath : r.1 = "/" := by
    obtain ⟨f, hf, hmount⟩ := isMountedAt_iff.1 hnew
    obtain rfl := Option.some.inj hf
    exact Value.str.inj hmount
  rw [hpath] at hnone
  exact absurd (hnone root hmem) (by simp [hroot])

/-- What is left goes to the first partition that is mounted at the root. -/
theorem growRoot_split {extra : Nat} {root : Partition} (hroot : root.isMountedAt "/" = true)
    {ps : List Partition} (hps : ∀ p ∈ ps, p.isMountedAt "/" = false) (qs : List Partition) :
    growRoot extra (ps ++ root :: qs) = ps ++ root.growBy extra :: qs := by
  induction ps with
  | nil => simp [growRoot, hroot]
  | cons p ps ih =>
    obtain ⟨hp, hps⟩ := List.forall_mem_cons.1 hps
    simp [growRoot, hp, ih hps]

/-- The arranged partitions with what is left for the root partition. -/
theorem growRoot_arranged {base : PartitionTable} {ps : List Partition}
    (h : arrange base requests required = .ok ps) :
    ∃ before root after, base.partitions = before ++ root :: after ∧
      root.isMountedAt "/" = true ∧ (∀ p ∈ before, p.isMountedAt "/" = false) ∧
      ∀ extra, growRoot extra ps =
        before.map (growExisting (largestRequests requests) required) ++
          added base requests required ++
          (growExisting (largestRequests requests) required root).growBy extra ::
            after.map (growExisting (largestRequests requests) required) := by
  obtain ⟨before, root, after, hbase, hroot, hfirst, rfl⟩ := arrange_split h
  refine ⟨before, root, after, hbase, hroot, hfirst, fun extra => ?_⟩
  refine growRoot_split (by rwa [isMountedAt_growExisting]) (fun p hp => ?_) _
  rcases List.mem_append.1 hp with hp | hp
  · obtain ⟨q, hq, rfl⟩ := List.mem_map.1 hp
    rw [isMountedAt_growExisting, hfirst q hq]
  · exact isMountedAt_root_added (hbase ▸ by simp : root ∈ base.partitions) hroot p hp

end

/-! ## The contents of a table -/

/-- The partitions of a table but for those that only hold others. -/
def PartitionTable.contents (t : PartitionTable) : List Partition :=
  t.partitions.filter (!·.isExtended)

theorem filter_noExtended {ps : List Partition} (h : NoExtended ps) :
    ps.filter (!·.isExtended) = ps :=
  List.filter_eq_self.2 fun p hp => by simp [h p hp]

theorem filter_nest {ps : List Partition} (h : NoExtended ps) (logical : Nat) :
    (nest logical ps).filter (!·.isExtended) = ps := by
  have hext : ∀ (qs : List Partition) (hne : qs ≠ []),
      (extendedAround qs hne).isExtended = true := fun _ _ => rfl
  simp only [nest]
  split
  · rw [List.filter_append, List.filter_cons_of_neg (by simp [hext]), ← List.filter_append,
      List.take_append_drop, filter_noExtended h]
  · exact filter_noExtended h

theorem map_filter_place {β : Type} {g : Partition → β}
    (h : ∀ p a, g { p with start := a } = g p) {a : Int} {inside : Bool} (ps : List Partition) :
    ((place a inside ps).filter (!·.isExtended)).map g =
      (ps.filter (!·.isExtended)).map g := by
  induction ps generalizing a inside with
  | nil => rfl
  | cons p ps ih =>
    have hsame : ({ p with start := a } : Partition).isExtended = p.isExtended := rfl
    cases hp : p.isExtended <;> simp [place, hp, hsame, h, ih]

theorem contents_anonymous (t : PartitionTable) :
    t.anonymous.contents = t.contents.map Partition.anonymous := by
  simp [PartitionTable.contents, PartitionTable.anonymous, List.filter_map, Function.comp_def]

/-- Identifiers change nothing about the contents but themselves. -/
theorem map_contents_identify {σ β : Type} [Source σ] {g : Partition → β}
    (h : ∀ p, g p.anonymous = g p) (t : PartitionTable) (s : σ) :
    ((identify t).run s).1.contents.map g = t.contents.map g := by
  have hmap : ∀ u : PartitionTable, u.contents.map g = u.anonymous.contents.map g := fun u => by
    simp [contents_anonymous, Function.comp_def, h]
  rw [hmap, identify_anonymous, ← hmap]

/-- Where a disk is laid out, its contents are the arranged partitions, with what is left for the
root partition. -/
theorem map_contents_layOut {β : Type} {g : Partition → β}
    (h : ∀ p a, g { p with start := a } = g p) {base : PartitionTable} {ps : List Partition}
    {imageSize : Int} {strict : Bool} {t : PartitionTable} (he : NoExtended ps)
    (ht : layOut base ps imageSize strict = .ok t) :
    t.contents.map g =
      (growRoot (alignUp imageSize - neededSize base.label ps).toNat ps).map g := by
  obtain ⟨-, rfl⟩ := layOut_eq_ok.1 ht
  have hgrown := noExtended_growRoot (alignUp imageSize - neededSize base.label ps).toNat he
  rw [PartitionTable.contents, map_filter_place h]
  split
  · rw [filter_noExtended hgrown]
  · rw [filter_nest hgrown]

/-! ## Needed sizes -/

theorem totalSize_congr {ps qs : List Partition} (h : ps.map (·.size) = qs.map (·.size)) :
    totalSize ps = totalSize qs := by
  induction ps generalizing qs with
  | nil => rw [List.map_eq_nil_iff.1 h.symm]
  | cons p ps ih =>
    cases qs with
    | nil => cases h
    | cons q qs =>
      obtain ⟨hp, hps⟩ := List.cons.inj h
      simp only [totalSize, ih hps]
      exact congrArg (· + _) hp

/-- What partitions need depends on their sizes only. -/
theorem neededSize_congr (label : Label) {ps qs : List Partition}
    (h : ps.map (·.size) = qs.map (·.size)) : neededSize label ps = neededSize label qs := by
  have hlen : ps.length = qs.length := by simpa using congrArg List.length h
  simp only [neededSize, logicalCount, totalSize_congr h, hlen]

/-- With what is left of the disk in the root partition, the partitions need the whole disk. -/
theorem neededSize_growRoot (label : Label) {ps : List Partition} (hr : HasRoot ps)
    (imageSize : Int) :
    neededSize label (growRoot (alignUp imageSize - neededSize label ps).toNat ps) =
      max (alignUp imageSize) (neededSize label ps) := by
  have hsize := size_layOut label hr imageSize
  have hcount : logicalCount label
      (growRoot (alignUp imageSize - neededSize label ps).toNat ps) = logicalCount label ps := by
    simp only [logicalCount, length_growRoot]
  rw [neededSize, hcount]
  omega

/-! ## Planned tables -/

/-- The contents of a planned table. The base table is split at its root partition, and `rest` is
what the disk has more than its partitions need. -/
structure Composition (base : PartitionTable) (requests : List SizedPath)
    (required : Assoc String Int) (imageSize : Int) (t : PartitionTable)
    (before : List Partition) (root : Partition) (after : List Partition) (rest : Int) : Prop where
  base_eq : base.partitions = before ++ root :: after
  root_mounted : root.isMountedAt "/" = true
  root_first : ∀ p ∈ before, p.isMountedAt "/" = false
  /-- No partition of the base table is lost, moved or made another one, and each path that is
  asked for and is not there has one partition, directly in front of the root partition. -/
  traits_eq : t.contents.map (·.traits) =
    before.map (·.traits) ++
      ((requests.map (·.path)).eraseDups.filter fun path => (base.findIdx? path).isNone).map
        (newTraits base.label) ++
      root.traits :: after.map (·.traits)
  /-- Every size is the planned one, but for the rest of the disk. -/
  sizes_eq : t.contents.map (·.size) =
    before.map (plannedSize requests required) ++
      ((requests.map (·.path)).eraseDups.filter fun path => (base.findIdx? path).isNone).map
        (newSize requests required) ++
      (plannedSize requests required root + rest) :: after.map (plannedSize requests required)
  rest_nonneg : 0 ≤ rest
  /-- The partitions need the whole disk. -/
  full : neededSize t.label t.contents = t.size
  /-- Without the rest, the disk is no larger than it must be. -/
  size_eq : t.size = max (alignUp imageSize) (t.size - rest)

section

variable {σ : Type} [Source σ] {policy : MountpointPolicy} {base : PartitionTable}
  {requests : List Blueprint.FilesystemRequest} {imageSize : Int} {required : Assoc String Int}
  {strict : Bool} {source : σ} {t : PartitionTable}

/-- Apart from places and identifiers, the contents of a planned table are the arranged partitions,
with what is left for the root partition. -/
theorem contents_plan (hext : ∀ p ∈ base.partitions, p.isExtended = false)
    (h : plan policy base requests imageSize required strict source = .ok t) :
    ∃ sized ps, checkMountpoints policy requests = .ok sized ∧
      arrange base sized required = .ok ps ∧ t.label = base.label ∧
      t.size = max (alignUp imageSize) (neededSize base.label ps) ∧
      ∀ {β : Type} {g : Partition → β}, (∀ p, g p.anonymous = g p) →
        (∀ p a, g { p with start := a } = g p) →
        t.contents.map g =
          (growRoot (alignUp imageSize - neededSize base.label ps).toNat ps).map g := by
  obtain ⟨sized, ps, table, hcheck, harr, hlay, rfl⟩ := plan_eq_ok.1 h
  have hsame := identify_anonymous table source
  refine ⟨sized, ps, hcheck, harr, ?_, ?_, fun hid hplace => ?_⟩
  · refine (congrArg (·.label) hsame).trans ?_
    obtain ⟨-, rfl⟩ := layOut_eq_ok.1 hlay
    rfl
  · refine (size_identify table source).trans ?_
    obtain ⟨-, rfl⟩ := layOut_eq_ok.1 hlay
    rfl
  · exact (map_contents_identify hid table source).trans
      (map_contents_layOut hplace (noExtended_arrange harr hext) hlay)

/-- A planned disk holds the partitions of its base table and one for each new mountpoint that is
asked for, with the sizes that are asked for. -/
theorem composition_plan (hext : ∀ p ∈ base.partitions, p.isExtended = false)
    (h : plan policy base requests imageSize required strict source = .ok t) :
    ∃ sized, requests = sized.map (fun s => ⟨.str s.path, s.minSize⟩) ∧
      ∃ before root after rest,
        Composition base sized required imageSize t before root after rest := by
  obtain ⟨sized, ps, hcheck, harr, hlabel, hsize, hcontents⟩ := contents_plan hext h
  obtain ⟨before, root, after, hbase, hroot, hfirst, hgrow⟩ := growRoot_arranged harr
  have htraits := hcontents Partition.traits_anonymous fun _ _ => rfl
  have hsizes := hcontents Partition.anonymous_size fun _ _ => rfl
  refine ⟨sized, eq_map_of_checkMountpoints hcheck, before, root, after,
    (alignUp imageSize - neededSize base.label ps).toNat, ?_⟩
  exact {
    base_eq := hbase
    root_mounted := hroot
    root_first := hfirst
    traits_eq := by
      rw [htraits, hgrow, ← newPaths_eq]
      simp [map_traits_added, traits_growExisting, Function.comp_def]
    sizes_eq := by
      rw [hsizes, hgrow, ← newPaths_eq]
      simp [map_size_added, size_growExisting, Function.comp_def]
    rest_nonneg := Int.natCast_nonneg _
    full := by
      rw [neededSize_congr _ hsizes, hlabel, neededSize_growRoot _ (hasRoot_arrange harr), hsize]
    size_eq := by
      rw [hsize]
      omega }

end

/-- A DOS table with one new mountpoint that is asked for twice, one that is there already and one
that makes partitions logical. -/
theorem composition_plan_logical :
    let base : PartitionTable :=
      ⟨.dos, [Fedora.prepBoot, Fedora.boot .dos, Fedora.root .dos], "", 0⟩
    let requests : List Blueprint.FilesystemRequest :=
      [⟨"/data", 3000⟩, ⟨"/boot", 2147483648⟩, ⟨"/var/log", 1⟩, ⟨"/data", 5000000⟩]
    (∀ p ∈ base.partitions, p.isExtended = false) ∧
    ∃ t, plan .standard base requests (8 * gib + 1) requiredSizes false
        (Random.Twister.ofSeed 7) = .ok t ∧
      ∃ sized, requests = sized.map (fun s => ⟨.str s.path, s.minSize⟩) ∧
        ∃ before root after rest,
          Composition base sized requiredSizes (8 * gib + 1) t before root after rest := by
  intro base requests
  have hext : ∀ p ∈ base.partitions, p.isExtended = false := by decide
  obtain ⟨t, hplan⟩ : ∃ t, plan .standard base requests (8 * gib + 1) requiredSizes false
      (Random.Twister.ofSeed 7) = .ok t := ⟨_, rfl⟩
  exact ⟨hext, t, hplan, composition_plan hext hplan⟩

end Imagewright.Disk
