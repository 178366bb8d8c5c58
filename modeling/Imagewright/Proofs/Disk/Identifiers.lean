import Imagewright.Disk.Plan
import Imagewright.Proofs.Outcome

/-!
# Identifiers and everything else

Identifiers are drawn last and change nothing but themselves: a table with its identifiers and the
table without are the same once identifiers are left out.

## Main definitions

* `Disk.Partition.anonymous`, `Disk.PartitionTable.anonymous`: without identifiers.

## Main statements

* `Disk.identify_anonymous`, `Disk.map_partitions_identify`: drawing identifiers changes nothing
  else.
* `Disk.plan_eq_ok`, `Disk.plan_of_arrange`: a planned table is a table that was laid out, with
  identifiers.
-/
namespace Imagewright.Disk

open Imagewright.Random (Source)

/-! ## Tables without identifiers -/

/-- A filesystem without its identifier. -/
def Filesystem.anonymous (f : Filesystem) : Filesystem := { f with uuid := "" }

/-- A partition without the identifiers on it. -/
def Partition.anonymous (p : Partition) : Partition :=
  { p with uuid := "", filesystem := p.filesystem.map Filesystem.anonymous }

/-- A table without identifiers. -/
def PartitionTable.anonymous (t : PartitionTable) : PartitionTable :=
  { t with uuid := "", partitions := t.partitions.map Partition.anonymous }

@[simp] theorem Filesystem.anonymous_mountpoint (f : Filesystem) :
    f.anonymous.mountpoint = f.mountpoint := rfl

@[simp] theorem Filesystem.anonymous_label (f : Filesystem) : f.anonymous.label = f.label := rfl

namespace Partition

@[simp] theorem anonymous_start (p : Partition) : p.anonymous.start = p.start := rfl

@[simp] theorem anonymous_size (p : Partition) : p.anonymous.size = p.size := rfl

@[simp] theorem anonymous_filesystem (p : Partition) :
    p.anonymous.filesystem = p.filesystem.map Filesystem.anonymous := rfl

@[simp] theorem anonymous_isExtended (p : Partition) : p.anonymous.isExtended = p.isExtended := rfl

end Partition

/-! ## Drawing identifiers -/

section

variable {σ α β γ : Type}

theorem fst_run_bind (x : StateM σ α) (f : α → StateM σ β) (s : σ) :
    ((x >>= f).run s).1 = ((f (x.run s).1).run (x.run s).2).1 := rfl

theorem fst_run_map (f : α → β) (x : StateM σ α) (s : σ) :
    ((f <$> x).run s).1 = f (x.run s).1 := rfl

theorem fst_run_pure (a : α) (s : σ) : ((pure a : StateM σ α).run s).1 = a := rfl

/-- What each drawing makes of its item whatever is drawn, a list of drawings makes of all items. -/
theorem map_run_mapM {f : α → StateM σ γ} {g : γ → β} {k : α → β}
    (h : ∀ a s, g ((f a).run s).1 = k a) (as : List α) (s : σ) :
    ((as.mapM f).run s).1.map g = as.map k := by
  induction as generalizing s with
  | nil => rfl
  | cons a as ih =>
    rw [List.mapM_cons, fst_run_bind, fst_run_bind, fst_run_pure, List.map_cons, List.map_cons,
      h, ih]

theorem mem_run_mapM {f : α → StateM σ β} {as : List α} {s : σ} {b : β}
    (h : b ∈ ((as.mapM f).run s).1) : ∃ a ∈ as, ∃ s', ((f a).run s').1 = b := by
  induction as generalizing s with
  | nil => cases h
  | cons a as ih =>
    rw [List.mapM_cons, fst_run_bind, fst_run_bind, fst_run_pure] at h
    rcases List.mem_cons.1 h with rfl | h
    · exact ⟨a, List.mem_cons_self, s, rfl⟩
    · obtain ⟨a', ha', s', hb⟩ := ih h
      exact ⟨a', List.mem_cons_of_mem _ ha', s', hb⟩

end

section

variable {σ : Type} [Source σ]

theorem identifyFilesystem_anonymous (f : Filesystem) (s : σ) :
    ((identifyFilesystem f).run s).1.anonymous = f.anonymous := by
  obtain ⟨type, _⟩ := f
  cases type <;> rfl

theorem identifyPartition_anonymous (label : Label) (p : Partition) (s : σ) :
    ((identifyPartition label p).run s).1.anonymous = p.anonymous := by
  unfold identifyPartition
  split
  · rfl
  · obtain ⟨size, type, start, uuid, bootable, filesystem, pos⟩ := p
    cases filesystem with
    | none => cases label <;> rfl
    | some f =>
      cases label <;>
        simp only [fst_run_bind, fst_run_map, fst_run_pure, Partition.anonymous, Option.map_some,
          identifyFilesystem_anonymous]

theorem identify_anonymous (t : PartitionTable) (s : σ) :
    ((identify t).run s).1.anonymous = t.anonymous := by
  obtain ⟨label, partitions, uuid, size⟩ := t
  cases label <;>
    simp only [identify, fst_run_bind, fst_run_pure, PartitionTable.anonymous,
      map_run_mapM (identifyPartition_anonymous _)]

/-- Identifiers change nothing about the partitions but themselves. -/
theorem map_partitions_identify {β : Type} {g : Partition → β} (h : ∀ p, g p.anonymous = g p)
    (t : PartitionTable) (s : σ) :
    ((identify t).run s).1.partitions.map g = t.partitions.map g := by
  have hmap : ∀ u : PartitionTable, u.partitions.map g = u.anonymous.partitions.map g := fun u => by
    simp [PartitionTable.anonymous, Function.comp_def, h]
  rw [hmap, identify_anonymous, ← hmap]

theorem size_identify (t : PartitionTable) (s : σ) : ((identify t).run s).1.size = t.size := by
  have hsize := congrArg PartitionTable.size (identify_anonymous t s)
  exact hsize

/-! ## Identifiers that are given -/

theorem truthy_ofList {cs : List Char} (h : cs ≠ []) :
    (Value.str (String.ofList cs)).truthy = true := by
  simpa [Value.truthy, ← String.toList_inj] using h

theorem truthy_uuid (s : σ) : (Value.str (Random.uuid.run s).1).truthy = true :=
  truthy_ofList (by simp [Random.groupDigits])

theorem truthy_diskId (s : σ) : (Value.str (Random.diskId.run s).1).truthy = true :=
  truthy_ofList (by simp)

theorem truthy_volumeId (s : σ) : (Value.str (Random.volumeId.run s).1).truthy = true :=
  truthy_ofList (by simp)

theorem truthy_identifyFilesystem (f : Filesystem) (s : σ) :
    ((identifyFilesystem f).run s).1.uuid.truthy = true := by
  obtain ⟨type, _⟩ := f
  cases type
  · exact truthy_uuid s
  · exact truthy_uuid s
  · exact truthy_volumeId s

/-- Each filesystem gets an identifier, unless it is on a partition that holds logical ones. -/
theorem truthy_identify {t : PartitionTable}
    (ht : ∀ p ∈ t.partitions, p.isExtended = true → p.filesystem = none) (s : σ) :
    ∀ f ∈ ((identify t).run s).1.filesystems, f.uuid.truthy = true := by
  intro f hf
  obtain ⟨p, hp, hpf⟩ := List.mem_filterMap.1 hf
  obtain ⟨q, hq, s', rfl⟩ : ∃ q ∈ t.partitions, ∃ s',
      ((identifyPartition t.label q).run s').1 = p := by
    obtain ⟨label, partitions, _, _⟩ := t
    cases label <;> exact mem_run_mapM hp
  unfold identifyPartition at hpf
  split at hpf
  · next hext =>
    rw [fst_run_pure, ht q hq hext] at hpf
    cases hpf
  · cases hfs : q.filesystem with
    | none => cases hl : t.label <;> rw [hl, hfs] at hpf <;> cases hpf
    | some g =>
      cases hl : t.label <;>
        simp only [hl, hfs, fst_run_bind, fst_run_map, fst_run_pure, Option.some.injEq] at hpf <;>
        exact hpf ▸ truthy_identifyFilesystem g _

/-- The steps of planning. -/
theorem plan_eq_ok {policy : MountpointPolicy} {base : PartitionTable}
    {requests : List Blueprint.FilesystemRequest} {imageSize : Int} {required : Assoc String Int}
    {strict : Bool} {source : σ} {t : PartitionTable} :
    plan policy base requests imageSize required strict source = .ok t ↔
      ∃ sized partitions table, checkMountpoints policy requests = .ok sized ∧
        arrange base sized required = .ok partitions ∧
        layOut base partitions imageSize strict = .ok table ∧
        ((identify table).run source).1 = t := by
  simp only [plan, Outcome.bind_eq_ok, Outcome.mapError_eq_ok, Outcome.pure_eq_ok]
  grind

/-- Once mountpoints are accepted and partitions are arranged, only their layout can fail. -/
theorem plan_of_arrange {policy : MountpointPolicy} {base : PartitionTable}
    {requests : List Blueprint.FilesystemRequest} {required : Assoc String Int}
    {sized : List SizedPath} {ps : List Partition}
    (hc : checkMountpoints policy requests = .ok sized)
    (ha : arrange base sized required = .ok ps) (imageSize : Int) (strict : Bool) (source : σ) :
    plan policy base requests imageSize required strict source =
      (fun t => ((identify t).run source).1) <$> layOut base ps imageSize strict := by
  rw [plan, hc, Except.mapError, Outcome.ok_bind, ha, Outcome.ok_bind]
  cases layOut base ps imageSize strict <;> rfl

end

end Imagewright.Disk
