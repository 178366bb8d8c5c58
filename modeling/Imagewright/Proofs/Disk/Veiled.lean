import Imagewright.Proofs.Disk.Identifiers

/-!
# What the draws leave open

Some parts of a manifest are there only if a table has an identifier. So the draws must not decide
whether there is one: a table whose identifiers are veiled, so that only their presence shows, does
not depend on what was drawn.

## Main definitions

* `Disk.veil`: a mark that tells whether there is an identifier.
* `Disk.PartitionTable.veiled`: a table with marks in the places of its identifiers.

## Main statements

* `Disk.veiled_identify`: the veiled table is the same for all draws.
* `Disk.alike_plan`: planning fails for all draws in the same way, or the veiled tables are equal.
-/
namespace Imagewright.Disk

open Imagewright.Random (Source)

/-- A mark that tells whether there is an identifier, and nothing else about it. -/
def veil (uuid : Value) : Value := if uuid.truthy then "*" else ""

def Filesystem.veiled (f : Filesystem) : Filesystem := { f with uuid := veil f.uuid }

def Partition.veiled (p : Partition) : Partition :=
  { p with uuid := veil p.uuid, filesystem := p.filesystem.map Filesystem.veiled }

/-- A table with marks in the places of its identifiers. -/
def PartitionTable.veiled (t : PartitionTable) : PartitionTable :=
  { t with uuid := veil t.uuid, partitions := t.partitions.map Partition.veiled }

theorem veil_of_truthy {uuid : Value} (h : uuid.truthy = true) : veil uuid = "*" := if_pos h

@[simp] theorem truthy_veil (uuid : Value) : (veil uuid).truthy = uuid.truthy := by
  unfold veil
  split
  · next h => rw [h]; rfl
  · next h => rw [Bool.eq_false_iff.2 h]; rfl

/-! ## Drawing -/

section

variable {σ : Type} [Source σ]

theorem veiled_identifyFilesystem (f : Filesystem) (s : σ) :
    ((identifyFilesystem f).run s).1.veiled = { f with uuid := "*" } := by
  rw [Filesystem.veiled, veil_of_truthy (truthy_identifyFilesystem f s)]
  obtain ⟨type, _⟩ := f
  cases type <;> rfl

theorem veiled_identifyPartition (label : Label) (p : Partition) (s s' : σ) :
    ((identifyPartition label p).run s).1.veiled =
      ((identifyPartition label p).run s').1.veiled := by
  unfold identifyPartition
  split
  · rfl
  · obtain ⟨size, type, start, uuid, bootable, filesystem, pos⟩ := p
    cases filesystem with
    | none =>
      cases label <;>
        simp only [fst_run_bind, fst_run_pure, Partition.veiled, veil_of_truthy (truthy_uuid _),
          Option.map_none]
    | some f =>
      cases label <;>
        simp only [fst_run_bind, fst_run_map, fst_run_pure, Partition.veiled,
          veil_of_truthy (truthy_uuid _), Option.map_some, veiled_identifyFilesystem]

/-- The veiled table is the same for all draws. -/
theorem veiled_identify (t : PartitionTable) (s s' : σ) :
    ((identify t).run s).1.veiled = ((identify t).run s').1.veiled := by
  obtain ⟨label, partitions, uuid, size⟩ := t
  have hpartitions : ∀ s₁ s₂ : σ,
      ((partitions.mapM (identifyPartition label)).run s₁).1.map Partition.veiled =
        ((partitions.mapM (identifyPartition label)).run s₂).1.map Partition.veiled := by
    intro s₁ s₂
    have hitem := fun (p : Partition) (s : σ) => veiled_identifyPartition label p s s₂
    rw [map_run_mapM hitem, map_run_mapM hitem]
  cases label with
  | gpt =>
    simp only [identify, fst_run_bind, fst_run_pure, PartitionTable.veiled,
      veil_of_truthy (truthy_uuid _)]
    rw [hpartitions]
  | dos =>
    simp only [identify, fst_run_bind, fst_run_pure, PartitionTable.veiled,
      veil_of_truthy (truthy_diskId _)]
    rw [hpartitions]

/-- The draws come last: no step that can fail has seen them. -/
theorem alike_plan (policy : MountpointPolicy) (base : PartitionTable)
    (requests : List Blueprint.FilesystemRequest) (imageSize : Int) (required : Assoc String Int)
    (strict : Bool) (s s' : σ) :
    Outcome.Alike (fun t t' => t.veiled = t'.veiled)
      (plan policy base requests imageSize required strict s)
      (plan policy base requests imageSize required strict s') :=
  Outcome.alike_bind_same fun _ => Outcome.alike_bind_same fun _ =>
    Outcome.alike_bind_same fun table => .ok (veiled_identify table s s')

end

end Imagewright.Disk
