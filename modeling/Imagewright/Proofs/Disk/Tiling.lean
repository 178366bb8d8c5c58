import Imagewright.Proofs.Disk.Steps
import Imagewright.Catalog.Fedora.Tables
import Imagewright.Random.Twister

/-!
# Partitions tile the disk

The partitions of a planned disk lie side by side: the first one directly behind the header, each
further one where the one before ends, and the last one up to the end of the disk or the copy of
the label there.

## Main definitions

* `Disk.Tiles`: partitions side by side between two places.
* `Disk.PartitionTable.topLevel`: the partitions that are not inside another one.

## Main statements

* `Disk.plan_tiles`: the partitions of a planned disk tile it, in whole mebibytes.
-/
namespace Imagewright.Disk

open Catalog
open Imagewright.Random (Source)

/-! ## Tilings -/

/-- Partitions lie side by side from `start` up to `stop`, and none is empty. -/
def Tiles (start : Int) : List Partition → Int → Prop
  | [], stop => start = stop
  | p :: rest, stop => p.start = start ∧ 0 < p.size ∧ Tiles (start + p.size) rest stop

/-- The partitions that are not inside another one: all of them, or those up to the extended one,
which has the last of the primary slots. -/
def PartitionTable.topLevel (t : PartitionTable) : List Partition :=
  if t.partitions.any (·.isExtended) then t.partitions.take primarySlots else t.partitions

theorem tiles_append {a c : Int} {ps qs : List Partition} :
    Tiles a (ps ++ qs) c ↔ ∃ b, Tiles a ps b ∧ Tiles b qs c := by
  induction ps generalizing a with
  | nil => simp [Tiles]
  | cons p ps ih => simp only [List.cons_append, Tiles, ih]; grind

theorem Tiles.le {a b : Int} {ps : List Partition} (h : Tiles a ps b) : a ≤ b := by
  induction ps generalizing a with
  | nil => exact Int.le_of_eq h
  | cons p ps ih =>
    obtain ⟨-, hp, hr⟩ := h
    have := ih hr
    omega

theorem Tiles.bounds {a b : Int} {ps : List Partition} (h : Tiles a ps b) {p : Partition}
    (hp : p ∈ ps) : a ≤ p.start ∧ p.start + p.size ≤ b := by
  induction ps generalizing a with
  | nil => cases hp
  | cons q ps ih =>
    obtain ⟨hs, hq, hr⟩ := h
    rcases List.mem_cons.1 hp with rfl | hp
    · have := hr.le
      omega
    · have := ih hr hp
      omega

/-- Each partition ends before the later ones start. -/
theorem Tiles.pairwise {a b : Int} {ps : List Partition} (h : Tiles a ps b) :
    ps.Pairwise fun p q => p.start + p.size ≤ q.start := by
  induction ps generalizing a with
  | nil => exact .nil
  | cons p ps ih =>
    obtain ⟨hs, -, hr⟩ := h
    refine .cons (fun q hq => ?_) (ih hr)
    have := hr.bounds hq
    omega

/-- Every byte is in a partition. -/
theorem Tiles.covers {a b : Int} {ps : List Partition} (h : Tiles a ps b) {byte : Int}
    (ha : a ≤ byte) (hb : byte < b) : ∃ p ∈ ps, p.start ≤ byte ∧ byte < p.start + p.size := by
  induction ps generalizing a with
  | nil =>
    have : a = b := h
    omega
  | cons p ps ih =>
    obtain ⟨hs, -, hr⟩ := h
    by_cases hp : byte < a + p.size
    · exact ⟨p, List.mem_cons_self, by omega, by omega⟩
    · obtain ⟨q, hq, hin⟩ := ih hr (by omega)
      exact ⟨q, List.mem_cons_of_mem _ hq, hin⟩

@[simp] theorem tiles_anonymous {a b : Int} {ps : List Partition} :
    Tiles a (ps.map Partition.anonymous) b ↔ Tiles a ps b := by
  induction ps generalizing a with
  | nil => rfl
  | cons p ps ih => simp [Tiles, ih]

@[simp] theorem topLevel_anonymous (t : PartitionTable) :
    t.anonymous.topLevel = t.topLevel.map Partition.anonymous := by
  simp only [PartitionTable.topLevel, PartitionTable.anonymous, List.any_map, Function.comp_def,
    Partition.anonymous_isExtended]
  split <;> simp [List.map_take]

/-! ## Tilings of the disk -/

theorem tiles_place {a : Int} {ps : List Partition} (h : NoExtended ps) :
    Tiles a (place a false ps) (a + totalSize ps) := by
  induction ps generalizing a with
  | nil => simp [place, Tiles, totalSize]
  | cons p ps ih =>
    obtain ⟨hp, hps⟩ := List.forall_mem_cons.1 h
    simp only [place, hp, totalSize, Tiles]
    refine ⟨trivial, p.size_pos, ?_⟩
    simpa [Int.add_assoc] using ih (a := a + p.size) hps

theorem topLevel_nested {qs : List Partition} (hq : NoExtended qs) (hne : qs.drop 3 ≠ [])
    {t : PartitionTable} (ht : t.partitions =
      place headerSize false (qs.take 3 ++ extendedAround (qs.drop 3) hne :: qs.drop 3)) :
    t.topLevel = place headerSize false (qs.take 3) ++
      [{ extendedAround (qs.drop 3) hne with start := headerSize + totalSize (qs.take 3) }] := by
  have hthree : NoExtended (qs.take 3) := fun p hp => hq p (List.mem_of_mem_take hp)
  have hext : (extendedAround (qs.drop 3) hne).isExtended = true := rfl
  have hlen : (place headerSize false (qs.take 3)).length = 3 := by
    rw [Ne, List.drop_eq_nil_iff] at hne
    rw [length_place, List.length_take]
    omega
  have hany : t.partitions.any (·.isExtended) = true := by
    rw [ht, any_isExtended_place]
    simp [hext]
  rw [PartitionTable.topLevel, if_pos hany, ht, place_append hthree, List.take_append, hlen,
    List.take_of_length_le (by rw [hlen]; decide)]
  simp [place, spread, hext, primarySlots]

theorem tiles_layOut {base : PartitionTable} {ps : List Partition} {imageSize : Int}
    {strict : Bool} {t : PartitionTable} (h : layOut base ps imageSize strict = .ok t)
    (he : NoExtended ps) (hr : HasRoot ps) :
    Tiles headerSize t.topLevel (t.size - footerSize t.label) := by
  obtain ⟨-, rfl⟩ := layOut_eq_ok.1 h
  have hsize := size_layOut base.label hr imageSize
  have hlen := length_growRoot (alignUp imageSize - neededSize base.label ps).toNat ps
  have hq := noExtended_growRoot (alignUp imageSize - neededSize base.label ps).toNat he
  generalize growRoot (alignUp imageSize - neededSize base.label ps).toNat ps = qs
    at hsize hlen hq ⊢
  -- Either every partition is a top-level one, or the extended one stands for all logical ones.
  by_cases hz : logicalCount base.label ps = 0
  · have hany : qs.any (·.isExtended) = false := by simpa [NoExtended] using hq
    simp only [PartitionTable.topLevel, hz, if_true, any_isExtended_place, hany, Bool.false_eq_true,
      if_false]
    simpa [← hsize, hz] using tiles_place (a := headerSize) hq
  · obtain ⟨hne, hnest⟩ := nest_eq hlen hz
    obtain ⟨-, hthree, hn⟩ := (logicalCount_eq_zero_or base.label ps).resolve_left hz
    have hsum : totalSize qs = totalSize (qs.take 3) + totalSize (qs.drop 3) := by
      rw [← totalSize_append, List.take_append_drop]
    have hcount : (qs.drop 3).length = logicalCount base.label ps := by
      rw [List.length_drop]
      omega
    rw [topLevel_nested hq hne (by simp only [hz, if_false, hnest]), tiles_append]
    refine ⟨_, tiles_place fun p hp => hq p (List.mem_of_mem_take hp), rfl,
      Partition.size_pos _, ?_⟩
    simp only [Tiles, extendedAround, hcount, ← hsize, hsum]
    omega

/-! ## Whole mebibytes -/

/-- The sizes of partitions are whole mebibytes. -/
def Aligned (ps : List Partition) : Prop := ∀ p ∈ ps, mib ∣ p.size

theorem dvd_alignUp (n : Int) : mib ∣ alignUp n := ⟨_, Int.mul_comm ..⟩

theorem dvd_totalSize {ps : List Partition} (h : Aligned ps) : mib ∣ totalSize ps := by
  induction ps with
  | nil => exact Int.dvd_zero mib
  | cons p ps ih =>
    obtain ⟨hp, hps⟩ := List.forall_mem_cons.1 h
    exact Int.dvd_add hp (ih hps)

theorem dvd_neededSize (label : Label) {ps : List Partition} (h : Aligned ps) :
    mib ∣ neededSize label ps := by
  have hf : mib ∣ footerSize label := by cases label <;> decide
  have hl : mib ∣ logicalCount label ps * bootRecordSize := Int.dvd_mul_left ..
  exact Int.dvd_add (Int.dvd_add (Int.dvd_add (Int.dvd_refl _) (dvd_totalSize h)) hl) hf

theorem aligned_arrange {base : PartitionTable} {requests : List SizedPath}
    {required : Assoc String Int} {ps : List Partition}
    (h : arrange base requests required = .ok ps)
    (hb : ∀ p ∈ base.partitions, p.mountpoint? = none → mib ∣ p.size) : Aligned ps := by
  intro p hp
  rcases (mem_of_arrange h).1 hp with hp | hp
  · obtain ⟨q, hq, rfl⟩ := List.mem_map.1 hp
    unfold growExisting
    split
    · next hm => exact hb q hq hm
    · next m _ =>
      have := le_alignUp (max q.size
        (max (sizeAt (largestRequests requests) m) (sizeAt required m)))
      rw [Partition.growTo_size, Int.max_eq_right (by omega)]
      exact dvd_alignUp _
  · obtain ⟨r, -, rfl⟩ := List.mem_map.1 hp
    exact dvd_alignUp _

theorem aligned_growRoot {extra : Nat} {ps : List Partition} (h : Aligned ps)
    (he : mib ∣ (extra : Int)) : Aligned (growRoot extra ps) := by
  induction ps with
  | nil => exact h
  | cons p ps ih =>
    obtain ⟨hp, hps⟩ := List.forall_mem_cons.1 h
    simp only [growRoot]
    split
    · exact List.forall_mem_cons.2 ⟨Int.dvd_add hp he, hps⟩
    · exact List.forall_mem_cons.2 ⟨hp, ih hps⟩

theorem aligned_nest {logical : Nat} {ps : List Partition} (h : Aligned ps) :
    Aligned (nest logical ps) := by
  intro p hp
  rcases mem_nest hp with hp | ⟨_, rfl⟩
  · exact h p hp
  · have hlogical : Aligned (ps.drop (ps.length - logical)) := fun q hq =>
      h q (List.mem_of_mem_drop hq)
    exact Int.dvd_add (dvd_totalSize hlogical) (Int.dvd_mul_left ..)

theorem aligned_place {a : Int} {inside : Bool} {ps : List Partition} (ha : mib ∣ a)
    (h : Aligned ps) : ∀ p ∈ place a inside ps, mib ∣ p.start ∧ mib ∣ p.size := by
  induction ps generalizing a inside with
  | nil => simp [place]
  | cons p ps ih =>
    obtain ⟨hp, hps⟩ := List.forall_mem_cons.1 h
    have hr : mib ∣ bootRecordSize := Int.dvd_refl _
    simp only [place]
    refine List.forall_mem_cons.2 ⟨⟨ha, hp⟩, ?_⟩
    split
    · exact ih (Int.dvd_add ha hr) hps
    · refine ih (Int.dvd_add (Int.dvd_add ha hp) ?_) hps
      split
      · exact hr
      · exact Int.dvd_zero mib

theorem aligned_layOut {base : PartitionTable} {ps : List Partition} {imageSize : Int}
    {strict : Bool} {t : PartitionTable} (h : layOut base ps imageSize strict = .ok t)
    (ha : Aligned ps) : mib ∣ t.size ∧ ∀ p ∈ t.partitions, mib ∣ p.start ∧ mib ∣ p.size := by
  obtain ⟨-, rfl⟩ := layOut_eq_ok.1 h
  have htotal := dvd_alignUp imageSize
  have hneeded := dvd_neededSize base.label ha
  have hextra : mib ∣ ((alignUp imageSize - neededSize base.label ps).toNat : Int) := by
    rw [Int.ofNat_toNat]
    rcases Int.le_total 0 (alignUp imageSize - neededSize base.label ps) with hle | hle
    · rw [Int.max_eq_left hle]
      exact Int.dvd_sub htotal hneeded
    · rw [Int.max_eq_right hle]
      exact Int.dvd_zero mib
  constructor
  · rcases Int.le_total (alignUp imageSize) (neededSize base.label ps) with hle | hle
    · rwa [Int.max_eq_right hle]
    · rwa [Int.max_eq_left hle]
  · refine aligned_place (Int.dvd_refl _) ?_
    split
    · exact aligned_growRoot ha hextra
    · exact aligned_nest (aligned_growRoot ha hextra)

/-! ## Planning -/

section

variable {σ : Type} [Source σ]

/-- The partitions of a planned disk lie side by side from behind the header up to the end of the
disk, or up to the copy of a GPT label there: they do not overlap, and every byte is in one of them.
All places and sizes are whole mebibytes if those that the table fixes are. -/
theorem plan_tiles {policy : MountpointPolicy} {base : PartitionTable}
    {requests : List Blueprint.FilesystemRequest} {imageSize : Int} {required : Assoc String Int}
    {strict : Bool} {source : σ} {t : PartitionTable}
    (hext : ∀ p ∈ base.partitions, p.isExtended = false)
    (h : plan policy base requests imageSize required strict source = .ok t) :
    t.label = base.label ∧
      Tiles headerSize t.topLevel (t.size - footerSize t.label) ∧
      t.topLevel.Pairwise (fun p q => p.start + p.size ≤ q.start) ∧
      (∀ byte, headerSize ≤ byte → byte < t.size - footerSize t.label →
        ∃ p ∈ t.topLevel, p.start ≤ byte ∧ byte < p.start + p.size) ∧
      ((∀ p ∈ base.partitions, p.mountpoint? = none → mib ∣ p.size) →
        mib ∣ t.size ∧ ∀ p ∈ t.partitions, mib ∣ p.start ∧ mib ∣ p.size) := by
  obtain ⟨sized, ps, table, -, harr, hlay, rfl⟩ := plan_eq_ok.1 h
  -- The identifiers are all that differs from the table that was laid out, and no place or size
  -- depends on them.
  have hsame := identify_anonymous table source
  generalize ((identify table).run source).1 = t at hsame ⊢
  have hlabel : t.label = table.label := congrArg (·.label) hsame
  have hsize : t.size = table.size := congrArg (·.size) hsame
  have htop : t.topLevel.map Partition.anonymous = table.topLevel.map Partition.anonymous := by
    rw [← topLevel_anonymous, hsame, topLevel_anonymous]
  have htiles : Tiles headerSize t.topLevel (t.size - footerSize t.label) := by
    rw [← tiles_anonymous, htop, tiles_anonymous, hsize, hlabel]
    exact tiles_layOut hlay (noExtended_arrange harr hext) (hasRoot_arrange harr)
  refine ⟨?_, htiles, htiles.pairwise, fun byte => htiles.covers, fun hbase => ?_⟩
  · rw [hlabel]
    obtain ⟨-, rfl⟩ := layOut_eq_ok.1 hlay
    rfl
  · obtain ⟨hdisk, hparts⟩ := aligned_layOut hlay (aligned_arrange harr hbase)
    refine ⟨hsize ▸ hdisk, ?_⟩
    have hmap : t.partitions.map Partition.anonymous = table.partitions.map Partition.anonymous :=
      congrArg (·.partitions) hsame
    have key : ∀ p ∈ t.partitions.map Partition.anonymous, mib ∣ p.start ∧ mib ∣ p.size := by
      rw [hmap]
      simpa using hparts
    simpa using key

end

/-- A DOS table with two mountpoints more than it has primary slots for. -/
theorem plan_tiles_logical :
    let base : PartitionTable :=
      ⟨.dos, [Fedora.prepBoot, Fedora.boot .dos, Fedora.root .dos], "", 0⟩
    (∀ p ∈ base.partitions, p.isExtended = false) ∧
    (∀ p ∈ base.partitions, p.mountpoint? = none → mib ∣ p.size) ∧
    ∃ t, plan .standard base [⟨"/data", 3000⟩, ⟨"/var/log", 1⟩] (8 * gib + 1) requiredSizes false
        (Random.Twister.ofSeed 7) = .ok t ∧
      Tiles headerSize t.topLevel (t.size - footerSize t.label) ∧ mib ∣ t.size := by
  intro base
  have hext : ∀ p ∈ base.partitions, p.isExtended = false := by decide
  have hbase : ∀ p ∈ base.partitions, p.mountpoint? = none → mib ∣ p.size := by
    intro p hp _
    simp only [base, List.mem_cons, List.not_mem_nil, or_false] at hp
    rcases hp with rfl | rfl | rfl <;> decide
  obtain ⟨t, hplan⟩ : ∃ t, plan .standard base [⟨"/data", 3000⟩, ⟨"/var/log", 1⟩] (8 * gib + 1)
      requiredSizes false (Random.Twister.ofSeed 7) = .ok t := ⟨_, rfl⟩
  obtain ⟨-, htiles, -, -, haligned⟩ := plan_tiles hext hplan
  exact ⟨hext, hbase, t, hplan, htiles, (haligned hbase).1⟩

end Imagewright.Disk
