import Imagewright.Proofs.Disk.Contents

/-!
# Logical partitions

A DOS label has room for four partitions. If a disk has more, the fourth one is an extended
partition, and the others lie inside it one behind the other, each behind a boot record of its own.
The extended partition ends with the disk, and nothing is mounted on it.

## Main definitions

* `Disk.Chained`: partitions one behind the other, each behind a boot record.
* `Disk.Partition.undrawn`: what of a partition no draw of identifiers changes.
* `Disk.Nested`: a table with an extended partition and logical ones.

## Main statements

* `Disk.nested_layOut`: a disk that is laid out with more than four partitions is nested.
* `Disk.plan_primarySlots`: a planned disk is nested exactly if it has more than four partitions.
-/
namespace Imagewright.Disk

open Catalog
open Imagewright.Random (Source)

/-! ## Chains -/

/-- Partitions lie one behind the other from `start` up to `stop`, each one behind a boot record of
a mebibyte, and none is empty. -/
def Chained (start : Int) : List Partition → Int → Prop
  | [], stop => start = stop
  | p :: rest, stop => p.start = start + mib ∧ 0 < p.size ∧ Chained (p.start + p.size) rest stop

theorem Chained.le {a b : Int} {ps : List Partition} (h : Chained a ps b) : a ≤ b := by
  induction ps generalizing a with
  | nil => exact Int.le_of_eq h
  | cons p ps ih =>
    obtain ⟨hs, hp, hr⟩ := h
    have := ih hr
    have hm : (0 : Int) < mib := by decide
    omega

theorem Chained.bounds {a b : Int} {ps : List Partition} (h : Chained a ps b) {p : Partition}
    (hp : p ∈ ps) : a + mib ≤ p.start ∧ p.start + p.size ≤ b := by
  induction ps generalizing a with
  | nil => cases hp
  | cons q ps ih =>
    obtain ⟨hs, hq, hr⟩ := h
    have hm : (0 : Int) < mib := by decide
    rcases List.mem_cons.1 hp with rfl | hp
    · have := hr.le
      omega
    · have := ih hr hp
      omega

/-- A chain is about places and sizes only. -/
theorem chained_map {g : Partition → Partition} (hstart : ∀ p, (g p).start = p.start)
    (hsize : ∀ p, (g p).size = p.size) {a b : Int} {ps : List Partition} :
    Chained a (ps.map g) b ↔ Chained a ps b := by
  induction ps generalizing a with
  | nil => rfl
  | cons p ps ih => simp only [List.map_cons, Chained, hstart, hsize, ih]

theorem chained_place {a : Int} {ps : List Partition} (h : NoExtended ps) :
    Chained a (place (a + bootRecordSize) true ps) (a + spread true ps) := by
  induction ps generalizing a with
  | nil => simp [place, Chained, spread, totalSize]
  | cons p ps ih =>
    obtain ⟨hp, hps⟩ := List.forall_mem_cons.1 h
    have hend : a + bootRecordSize + p.size + spread true ps = a + spread true (p :: ps) := by
      simp only [spread, totalSize, List.length_cons, if_true]
      grind
    simp only [place, hp, Bool.false_eq_true, if_false, if_true, Chained]
    exact ⟨rfl, p.size_pos, hend ▸ ih hps⟩

/-! ## Draws and extended partitions -/

/-- What of a partition no draw of identifiers changes. An extended partition has none. -/
def Partition.undrawn (p : Partition) : Partition := if p.isExtended then p else p.anonymous

@[simp] theorem Partition.undrawn_start (p : Partition) : p.undrawn.start = p.start := by
  unfold undrawn
  split <;> rfl

@[simp] theorem Partition.undrawn_size (p : Partition) : p.undrawn.size = p.size := by
  unfold undrawn
  split <;> rfl

@[simp] theorem Partition.undrawn_isExtended (p : Partition) :
    p.undrawn.isExtended = p.isExtended := by
  unfold undrawn
  split <;> rfl

theorem noExtended_undrawn {ps : List Partition} :
    NoExtended (ps.map Partition.undrawn) ↔ NoExtended ps := by simp [NoExtended]

theorem Partition.undrawn_of_isExtended {p : Partition} (h : p.isExtended = true) :
    p.undrawn = p := if_pos h

theorem isExtended_identifyPartition {σ : Type} [Source σ] (label : Label) (p : Partition)
    (s : σ) : ((identifyPartition label p).run s).1.isExtended = p.isExtended := by
  rw [← Partition.anonymous_isExtended, identifyPartition_anonymous, Partition.anonymous_isExtended]

theorem undrawn_identifyPartition {σ : Type} [Source σ] (label : Label) (p : Partition) (s : σ) :
    ((identifyPartition label p).run s).1.undrawn = p.undrawn := by
  cases hp : p.isExtended with
  | true =>
    have hsame : identifyPartition label p = (pure p : StateM σ Partition) := if_pos hp
    rw [hsame, fst_run_pure]
  | false =>
    rw [Partition.undrawn, isExtended_identifyPartition, hp, Partition.undrawn, hp,
      identifyPartition_anonymous]
    rfl

theorem undrawn_identify {σ : Type} [Source σ] (t : PartitionTable) (s : σ) :
    ((identify t).run s).1.partitions.map Partition.undrawn =
      t.partitions.map Partition.undrawn := by
  obtain ⟨label, partitions, uuid, size⟩ := t
  cases label <;> exact map_run_mapM (undrawn_identifyPartition _) partitions _

/-! ## Nested tables -/

/-- A table with an extended partition in its fourth place. Every partition behind that is a
logical one, and lies inside it. -/
structure Nested (t : PartitionTable) (first : List Partition) (extended : Partition)
    (logicals : List Partition) : Prop where
  partitions_eq : t.partitions = first ++ extended :: logicals
  length_first : first.length = 3
  isExtended : extended.isExtended = true
  /-- There is no other extended partition. -/
  others : NoExtended (first ++ logicals)
  filesystem_eq : extended.filesystem = none
  uuid_eq : extended.uuid = ""
  /-- The extended partition ends with the disk. -/
  stop_eq : extended.start + extended.size = t.size
  chained : Chained extended.start logicals (extended.start + extended.size)
  inside : ∀ p ∈ logicals, extended.start + mib ≤ p.start ∧
    p.start + p.size ≤ extended.start + extended.size

theorem place_nested {qs : List Partition} (hq : NoExtended qs) (hne : qs.drop 3 ≠ []) :
    place headerSize false (qs.take 3 ++ extendedAround (qs.drop 3) hne :: qs.drop 3) =
      place headerSize false (qs.take 3) ++
        { extendedAround (qs.drop 3) hne with start := headerSize + totalSize (qs.take 3) } ::
          place (headerSize + totalSize (qs.take 3) + bootRecordSize) true (qs.drop 3) := by
  have hthree : NoExtended (qs.take 3) := fun p hp => hq p (List.mem_of_mem_take hp)
  have hext : (extendedAround (qs.drop 3) hne).isExtended = true := rfl
  rw [place_append hthree]
  simp [place, spread, hext]

theorem noExtended_place {a : Int} {inside : Bool} {ps : List Partition} (h : NoExtended ps) :
    NoExtended (place a inside ps) := by
  have hany : (place a inside ps).any (·.isExtended) = ps.any (·.isExtended) :=
    any_isExtended_place ps
  have hnone : ps.any (·.isExtended) = false := by simpa [NoExtended] using h
  simpa [NoExtended, hnone] using hany

theorem logicalCount_ne_zero_iff {label : Label} {ps : List Partition} :
    logicalCount label ps ≠ 0 ↔ label = .dos ∧ 4 < ps.length := by
  have hcases := logicalCount_eq_zero_or label ps
  constructor
  · exact fun hz => (hcases.resolve_left hz).imp_right (·.2)
  · rintro ⟨rfl, hlen⟩
    simp only [logicalCount, primarySlots, hlen, decide_true, Bool.and_true, beq_self_eq_true,
      if_true]
    omega

/-- A disk with logical partitions is laid out with an extended partition that ends with the disk:
what is left of it goes to the root partition, wherever that is. -/
theorem nested_layOut {base : PartitionTable} {ps : List Partition} {imageSize : Int}
    {strict : Bool} {t : PartitionTable} (h : layOut base ps imageSize strict = .ok t)
    (he : NoExtended ps) (hr : HasRoot ps) (hz : logicalCount base.label ps ≠ 0) :
    ∃ first extended logicals, Nested t first extended logicals := by
  obtain ⟨-, rfl⟩ := layOut_eq_ok.1 h
  obtain ⟨hl, hthree, hlen⟩ := (logicalCount_eq_zero_or base.label ps).resolve_left hz
  have hsize := size_layOut base.label hr imageSize
  have hgrown := length_growRoot (alignUp imageSize - neededSize base.label ps).toNat ps
  have hq := noExtended_growRoot (alignUp imageSize - neededSize base.label ps).toNat he
  generalize growRoot (alignUp imageSize - neededSize base.label ps).toNat ps = qs
    at hsize hgrown hq ⊢
  obtain ⟨hne, hnest⟩ := nest_eq hgrown hz
  have hthree : NoExtended (qs.take 3) := fun p hp => hq p (List.mem_of_mem_take hp)
  have hrest : NoExtended (qs.drop 3) := fun p hp => hq p (List.mem_of_mem_drop hp)
  have hsum : totalSize qs = totalSize (qs.take 3) + totalSize (qs.drop 3) := by
    rw [← totalSize_append, List.take_append_drop]
  have hspread : (extendedAround (qs.drop 3) hne).size = spread true (qs.drop 3) := rfl
  have hchain := chained_place (a := headerSize + totalSize (qs.take 3)) hrest
  refine ⟨place headerSize false (qs.take 3),
    { extendedAround (qs.drop 3) hne with start := headerSize + totalSize (qs.take 3) },
    place (headerSize + totalSize (qs.take 3) + bootRecordSize) true (qs.drop 3), ?_⟩
  exact {
    partitions_eq := by simp only [hz, if_false, hnest, place_nested hq hne]
    length_first := by
      rw [length_place, List.length_take]
      omega
    isExtended := rfl
    others := fun p hp => (List.mem_append.1 hp).elim (noExtended_place hthree p)
      (noExtended_place hrest p)
    filesystem_eq := rfl
    uuid_eq := rfl
    stop_eq := by
      have hdrop : (qs.drop 3).length = logicalCount base.label ps := by
        rw [List.length_drop]
        omega
      have hfooter : footerSize base.label = 0 := by rw [hl]; rfl
      simp only [extendedAround, hdrop]
      omega
    chained := hchain
    inside := fun p hp => hchain.bounds hp }

/-- Identifiers change nothing about how a table is nested. -/
theorem Nested.identify {σ : Type} [Source σ] {t : PartitionTable} {first : List Partition}
    {extended : Partition} {logicals : List Partition} (h : Nested t first extended logicals)
    (s : σ) : ∃ first' logicals',
      Nested ((identify t).run s).1 first' extended logicals' := by
  have hsame := undrawn_identify t s
  rw [h.partitions_eq, List.map_append, List.map_cons, List.map_eq_append_iff] at hsame
  obtain ⟨first', rest, hparts, hfirst, hrest⟩ := hsame
  obtain ⟨extended', logicals', rfl, hextended, hlogicals⟩ := List.map_eq_cons_iff.1 hrest
  -- An extended partition is left as it is, so it can be told from what no draw changes.
  have hkept : extended' = extended := by
    have hisExtended : extended'.isExtended = true := by
      rw [← Partition.undrawn_isExtended, hextended, Partition.undrawn_isExtended, h.isExtended]
    rwa [Partition.undrawn_of_isExtended hisExtended,
      Partition.undrawn_of_isExtended h.isExtended] at hextended
  subst hkept
  have hchain : Chained extended'.start logicals' (extended'.start + extended'.size) := by
    rw [← chained_map Partition.undrawn_start Partition.undrawn_size, hlogicals,
      chained_map Partition.undrawn_start Partition.undrawn_size]
    exact h.chained
  refine ⟨first', logicals', ?_⟩
  exact {
    partitions_eq := hparts
    length_first := by
      rw [← h.length_first, ← List.length_map Partition.undrawn, hfirst, List.length_map]
    isExtended := h.isExtended
    others := by
      rw [← noExtended_undrawn, List.map_append, hfirst, hlogicals, ← List.map_append,
        noExtended_undrawn]
      exact h.others
    filesystem_eq := h.filesystem_eq
    uuid_eq := h.uuid_eq
    stop_eq := h.stop_eq.trans (size_identify t s).symm
    chained := hchain
    inside := fun p hp => hchain.bounds hp }

/-- Without logical partitions, none is made to hold others. -/
theorem noExtended_layOut {base : PartitionTable} {ps : List Partition} {imageSize : Int}
    {strict : Bool} {t : PartitionTable} (h : layOut base ps imageSize strict = .ok t)
    (he : NoExtended ps) (hz : logicalCount base.label ps = 0) : NoExtended t.partitions := by
  obtain ⟨-, rfl⟩ := layOut_eq_ok.1 h
  simp only [hz, if_true]
  exact noExtended_place (noExtended_growRoot _ he)

theorem noExtended_identify {σ : Type} [Source σ] {t : PartitionTable}
    (h : NoExtended t.partitions) (s : σ) : NoExtended ((identify t).run s).1.partitions := by
  rw [← noExtended_undrawn, undrawn_identify, noExtended_undrawn]
  exact h

/-! ## Mountpoints -/

/-- The partitions of the base table, and one for each new path. -/
theorem length_arrange {base : PartitionTable} {requests : List SizedPath}
    {required : Assoc String Int} {ps : List Partition}
    (h : arrange base requests required = .ok ps) :
    ps.length = base.partitions.length + (newPaths base requests).length := by
  obtain ⟨-, root, -, rfl⟩ := arrange_eq_ok.1 h
  have hgrown : (grown base requests required).length = base.partitions.length :=
    List.length_map _
  have hadded : (added base requests required).length = (newPaths base requests).length := by
    rw [← List.length_map (·.size), map_size_added, List.length_map]
  have hsplit := congrArg List.length (List.take_append_drop root (grown base requests required))
  rw [List.length_append] at hsplit
  simp only [List.length_append]
  omega

theorem mountpoints_eq (ps : List Partition) :
    ps.filterMap (·.mountpoint?) =
      ((filesystemsOf ps).map (·.mountpoint)).filter (!·.isNull) := by
  induction ps with
  | nil => rfl
  | cons p ps ih =>
    cases hf : p.filesystem with
    | none => simpa [filesystemsOf, Partition.mountpoint?, hf] using ih
    | some f =>
      cases hn : f.mountpoint.isNull <;>
        simpa [filesystemsOf, Partition.mountpoint?, hf, hn, Option.filter] using ih

/-- Neither the layout nor the draws change mountpoints or their order. -/
theorem mountpoints_of_layOut {σ : Type} [Source σ] {base : PartitionTable} {ps : List Partition}
    {imageSize : Int} {strict : Bool} {t : PartitionTable}
    (h : layOut base ps imageSize strict = .ok t) (s : σ) :
    ((identify t).run s).1.mountpoints = ps.filterMap (·.mountpoint?) := by
  have hsame := congrArg PartitionTable.filesystems (identify_anonymous t s)
  rw [filesystems_anonymous, filesystems_anonymous, filesystems_layOut h] at hsame
  have hpaths := congrArg (List.map (·.mountpoint)) hsame
  rw [List.map_map, List.map_map] at hpaths
  rw [PartitionTable.mountpoints, mountpoints_eq, mountpoints_eq]
  exact congrArg _ hpaths

/-! ## Planning -/

section

variable {σ : Type} [Source σ]

/-- A planned disk with a DOS label has no extended partition if the partitions of its base table
and the new ones are at most four. If they are more, it has one in the fourth place, up to the end
of the disk, and all partitions behind it lie inside. Its mountpoints are those of the partitions
that were arranged, whether they are nested or not. -/
theorem plan_primarySlots {policy : MountpointPolicy} {base : PartitionTable}
    {requests : List Blueprint.FilesystemRequest} {sized : List SizedPath}
    (hlabel : base.label = .dos) (hext : ∀ p ∈ base.partitions, p.isExtended = false)
    (hroot : ∃ p ∈ base.partitions, p.isMountedAt "/" = true)
    (hkeys : ∀ m ∈ base.mountpoints, m.isAtomic = true)
    (hcheck : checkMountpoints policy requests = .ok sized) (required : Assoc String Int)
    (imageSize : Int) (source : σ) :
    ∃ ps, arrange base sized required = .ok ps ∧
      ps.length = base.partitions.length +
        ((sized.map (·.path)).eraseDups.filter fun path => (base.findIdx? path).isNone).length ∧
      (∃ t, plan policy base requests imageSize required false source = .ok t) ∧
      ∀ strict t, plan policy base requests imageSize required strict source = .ok t →
        t.mountpoints = ps.filterMap (·.mountpoint?) ∧
        (ps.length ≤ 4 → NoExtended t.partitions) ∧
        (4 < ps.length → ∃ first extended logicals, Nested t first extended logicals) := by
  obtain ⟨ps, harr⟩ := succeeds_arrange hroot hkeys sized required
  have he := noExtended_arrange harr hext
  refine ⟨ps, harr, ?_, ?_, fun strict t h => ?_⟩
  · rw [length_arrange harr, newPaths_eq]
  · rw [plan_of_arrange hcheck harr]
    exact ⟨_, Outcome.map_eq_ok.2 ⟨_, layOut_eq_ok.2 ⟨by simp, rfl⟩, rfl⟩⟩
  · rw [plan_of_arrange hcheck harr, Outcome.map_eq_ok] at h
    obtain ⟨table, hlay, rfl⟩ := h
    refine ⟨mountpoints_of_layOut hlay source, fun hlen => ?_, fun hlen => ?_⟩
    · have hz : logicalCount base.label ps = 0 :=
        Decidable.byContradiction fun hz => absurd (logicalCount_ne_zero_iff.1 hz).2 (by omega)
      exact noExtended_identify (noExtended_layOut hlay he hz) source
    · obtain ⟨first, extended, logicals, hnested⟩ :=
        nested_layOut hlay he (hasRoot_arrange harr) (logicalCount_ne_zero_iff.2 ⟨hlabel, hlen⟩)
      obtain ⟨first', logicals', hdrawn⟩ := hnested.identify source
      exact ⟨first', extended, logicals', hdrawn⟩

end

/-- A disk whose root partition is a logical one and takes what is left of the disk. -/
theorem plan_primarySlots_logical :
    let base : PartitionTable :=
      ⟨.dos, [Fedora.prepBoot, Fedora.boot .dos, Fedora.root .dos], "", 0⟩
    let requests : List Blueprint.FilesystemRequest :=
      [⟨"/data", 3000⟩, ⟨"/boot", 2147483648⟩, ⟨"/var/log", 1⟩, ⟨"/data", 5000000⟩]
    let sized : List SizedPath :=
      [⟨"/data", 3000⟩, ⟨"/boot", 2147483648⟩, ⟨"/var/log", 1⟩, ⟨"/data", 5000000⟩]
    base.label = .dos ∧ (∀ p ∈ base.partitions, p.isExtended = false) ∧
    (∃ p ∈ base.partitions, p.isMountedAt "/" = true) ∧
    (∀ m ∈ base.mountpoints, m.isAtomic = true) ∧
    checkMountpoints .standard requests = .ok sized ∧
    ∃ t, plan .standard base requests (8 * gib + 1) requiredSizes false
        (Random.Twister.ofSeed 7) = .ok t ∧
      ∃ first extended logicals, Nested t first extended logicals := by
  intro base requests sized
  have hext : ∀ p ∈ base.partitions, p.isExtended = false := by decide
  have hroot : ∃ p ∈ base.partitions, p.isMountedAt "/" = true := by decide
  have hkeys : ∀ m ∈ base.mountpoints, m.isAtomic = true := by decide
  have hcheck : checkMountpoints .standard requests = .ok sized := by decide +kernel
  obtain ⟨ps, -, hlen, ⟨t, hplan⟩, hplanned⟩ := plan_primarySlots rfl hext hroot hkeys hcheck
    requiredSizes (8 * gib + 1) (Random.Twister.ofSeed 7)
  have hfive : 4 < ps.length := by
    rw [hlen]
    decide
  exact ⟨rfl, hext, hroot, hkeys, hcheck, t, hplan, (hplanned false t hplan).2.2 hfive⟩

end Imagewright.Disk
