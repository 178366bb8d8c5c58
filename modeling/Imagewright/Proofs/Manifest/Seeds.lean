import Imagewright.Proofs.Disk.Veiled
import Imagewright.Proofs.Manifest.Shapes

/-!
# What the seed decides

The seed of a manifest decides about identifiers and nothing else. With two seeds a request fails in
the same way, or it has manifests that are equal once the identifiers are erased.

## Main definitions

* `Manifest.Stage.erased`, `Manifest.erased`: identifiers are left blank; their keys stay.
* `Manifest.Context.veiled`: a context whose table shows only which identifiers there are.

## Main statements

* `Manifest.alike_assemble`: what is assembled depends on identifiers only by their presence.
* `Manifest.seeds_ofRequest`: two seeds give the same but for identifiers.
-/
namespace Imagewright.Manifest

open Catalog (Target)
open Context (plainPipeline)
open Disk (Filesystem Partition PartitionTable veil)
open Outcome (Alike alike_bind alike_bind_same alike_ite alike_map alike_mapError alike_refl)
open Request (Options Warning)

/-! ## Erasing -/

/-- The keys of identifiers: that of what is described and those of filesystems elsewhere. -/
def uuidKeys : List String := ["uuid", "root_fs_uuid", "boot_fs_uuid"]

/-- The types of the stages that know identifiers. -/
def uuidTypes : List String :=
  moduleTypes ["fstab", "kernel-cmdline", "grub2", "sfdisk", "mkfs.ext4", "mkfs.xfs", "mkfs.fat"]

/-- A field whose value is left blank if it is an identifier. `inside` erases in other values. -/
def eraseField (inside : Value → Value) (field : String × Value) : String × Value :=
  (field.1, if uuidKeys.contains field.1 then "" else inside field.2)

/-- An entry of a list without its identifiers. -/
def eraseEntry : Value → Value
  | .obj fields => .obj (fields.map (eraseField id))
  | v => v

/-- A list of entries without their identifiers. -/
def eraseEntries : Value → Value
  | .list entries => .list (entries.map eraseEntry)
  | v => v

/-- A stage whose identifiers are left blank. Their keys stay, and so does everything else. -/
def Stage.erased (s : Stage) : Stage :=
  if uuidTypes.contains s.type then
    { s with options := s.options.map (eraseField eraseEntries) }
  else s

def Pipeline.erased (p : Pipeline) : Pipeline := { p with stages := p.stages.map Stage.erased }

/-- A manifest whose identifiers are left blank. -/
def erased (m : Manifest) : Manifest := { m with pipelines := m.pipelines.map Pipeline.erased }

/-- A context whose table shows only which identifiers there are. -/
def Context.veiled (c : Context) : Context := { c with table := c.table.map PartitionTable.veiled }

/-- Stages that are equal once identifiers are erased. -/
def SameStages (ss ss' : List Stage) : Prop := ss.map Stage.erased = ss'.map Stage.erased

theorem SameStages.append {ss ss' ts ts' : List Stage} (hs : SameStages ss ss')
    (ht : SameStages ts ts') : SameStages (ss ++ ts) (ss' ++ ts') := by
  rw [SameStages, List.map_append, List.map_append, hs, ht]

/-! ## Stages -/

section

variable (t : PartitionTable)

theorem filesystems_veiled : t.veiled.filesystems = t.filesystems.map Filesystem.veiled := by
  simp only [PartitionTable.filesystems, PartitionTable.veiled, List.filterMap_map,
    List.map_filterMap]
  rfl

theorem find?_veiled (path : String) :
    t.veiled.find? path = (t.find? path).map Partition.veiled := by
  have hmounted : (·.isMountedAt path) ∘ Partition.veiled = (·.isMountedAt path) := by
    funext p
    cases hf : p.filesystem <;> simp [Partition.isMountedAt, Partition.mountpoint?,
      Partition.veiled, hf, Filesystem.veiled]
  rw [PartitionTable.find?, PartitionTable.veiled, List.find?_map, hmounted, PartitionTable.find?]

theorem truthy_filesystemUuid_veiled (path : String) :
    (filesystemUuid t.veiled path).truthy = (filesystemUuid t path).truthy := by
  rw [filesystemUuid, find?_veiled, filesystemUuid]
  cases t.find? path with
  | none => rfl
  | some p =>
    cases hf : p.filesystem with
    | none => simp [Partition.veiled, hf]
    | some f => simp [Partition.veiled, hf, Filesystem.veiled]

theorem sameStages_fstabStage : SameStages [fstabStage t] [fstabStage t.veiled] := by
  have hstage : ∀ t, (fstabStage t).erased =
      stage "fstab" [("filesystems", .list ((t.filesystems.map fstabEntry).map eraseEntry))] :=
    fun _ => rfl
  have hentry : ∀ f : Filesystem, eraseEntry (fstabEntry f) = eraseEntry (fstabEntry f.veiled) :=
    fun _ => rfl
  rw [SameStages, List.map_singleton, List.map_singleton, hstage, hstage, filesystems_veiled]
  simp only [List.map_map, Function.comp_def, ← hentry]

theorem sameStages_commandLineStages (kernelOptions : String) :
    SameStages (commandLineStages t kernelOptions) (commandLineStages t.veiled kernelOptions) := rfl

/-- The key of the boot filesystem is there for the same tables. -/
theorem sameStages_bootloaderStages (arch : String) (mode : Catalog.BootMode)
    (kernelOptions : Value) (product : String) :
    SameStages (bootloaderStages t arch mode kernelOptions product)
      (bootloaderStages t.veiled arch mode kernelOptions product) := by
  unfold bootloaderStages
  simp only [truthy_filesystemUuid_veiled]
  split
  · rfl
  · split
    · rfl
    · rfl

theorem erased_partitionStage (filename : Value) :
    (partitionStage t filename).erased = (partitionStage t.veiled filename).erased := by
  have hstage : ∀ t, (partitionStage t filename).erased =
      { stage "sfdisk" [
          ("label", .str t.label.name), ("uuid", ""),
          ("partitions", .list ((t.partitions.map partitionEntry).map eraseEntry))] with
        devices := [("device", .image filename (sectors t.size))] } := fun _ => rfl
  have hentry : ∀ p : Partition,
      eraseEntry (partitionEntry p) = eraseEntry (partitionEntry p.veiled) := by
    intro p
    have huuid : (veil p.uuid).truthy = p.uuid.truthy := Disk.truthy_veil p.uuid
    simp only [partitionEntry, Partition.veiled, huuid]
    split <;> rfl
  rw [hstage, hstage]
  simp only [PartitionTable.veiled, List.map_map, Function.comp_def, ← hentry]

theorem erased_makeFilesystemStage (filename : Value) (p : Partition) (f : Filesystem) :
    (makeFilesystemStage filename p f).erased =
      (makeFilesystemStage filename p.veiled f.veiled).erased := by
  obtain ⟨type, _⟩ := f
  cases type <;> rfl

def PlacedFilesystem.veiled (f : PlacedFilesystem) : PlacedFilesystem :=
  ⟨f.index, f.partition.veiled, f.filesystem.veiled⟩

theorem placed_veiled : placed t.veiled = (placed t).map PlacedFilesystem.veiled := by
  have hfrom : ∀ (ps : List Partition) (index : Nat),
      placedFrom index (ps.map Partition.veiled) =
        (placedFrom index ps).map PlacedFilesystem.veiled := by
    intro ps
    induction ps with
    | nil => intro index; rfl
    | cons p ps ih =>
      intro index
      cases hf : p.filesystem <;>
        simp [placedFrom, Partition.veiled, hf, ih, PlacedFilesystem.veiled]
  exact hfrom t.partitions 0

/-- Nothing about mounts depends on identifiers. -/
theorem copyStage_veiled (tree : String) : copyStage t.veiled tree = copyStage t tree := by
  have hmounts : (placed t.veiled).map (·.mount) = (placed t).map (·.mount) := by
    rw [placed_veiled, List.map_map]
    rfl
  have hroot : rootName (placed t.veiled) = rootName (placed t) := by
    rw [rootName, placed_veiled, ← List.map_reverse, List.find?_map, Option.map_map]
    rfl
  rw [copyStage, copyStage, hmounts, hroot]

theorem alike_imageStages (filename : Value) (arch : String) (mode : Catalog.BootMode)
    (tree : String) :
    Alike SameStages (imageStages t filename arch mode tree)
      (imageStages t.veiled filename arch mode tree) := by
  unfold imageStages
  rw [copyStage_veiled]
  refine alike_bind_same fun copy => .ok ?_
  have hfile : SameStages [truncateStage t filename, partitionStage t filename]
      [truncateStage t.veiled filename, partitionStage t.veiled filename] := by
    simp only [SameStages, List.map_cons, List.map_nil, ← erased_partitionStage]
    rfl
  have hmake : SameStages
      ((placed t).map fun f => makeFilesystemStage filename f.partition f.filesystem)
      ((placed t.veiled).map fun f => makeFilesystemStage filename f.partition f.filesystem) := by
    rw [SameStages, placed_veiled]
    simp only [List.map_map, Function.comp_def, PlacedFilesystem.veiled,
      ← erased_makeFilesystemStage]
  exact ((hfile.append hmake).append rfl).append rfl

end

/-! ## Pipelines -/

section

variable {c : Context}

/-- Pipelines that are equal once identifiers are erased. -/
def SamePipeline (p p' : Pipeline) : Prop := p.erased = p'.erased

theorem samePipeline_of_stages {p p' : Pipeline} (h : SameStages p.stages p'.stages)
    (hrest : { p with stages := p'.stages } = p') : SamePipeline p p' := by
  rw [← hrest, SamePipeline, Pipeline.erased, Pipeline.erased, h]

theorem alike_diskTable : Alike (fun t t' => t.veiled = t') c.diskTable c.veiled.diskTable := by
  unfold Context.diskTable Context.veiled
  cases c.table with
  | none => exact .error _
  | some t => exact .ok rfl

theorem alike_osPipeline (committed : Bool) :
    Alike SamePipeline (osPipeline c committed) (osPipeline c.veiled committed) := by
  unfold osPipeline
  refine alike_bind_same fun kernelOptions => alike_bind_same fun customizations => ?_
  obtain ⟨target, blueprint, options, repositories, chains, table⟩ := c
  cases table with
  | none => exact .ok rfl
  | some t =>
    have hcommand := sameStages_commandLineStages t kernelOptions
    have hboot := (sameStages_fstabStage t).append (sameStages_bootloaderStages t target.arch
      target.bootMode kernelOptions target.release.product)
    exact .ok (samePipeline_of_stages ((((((SameStages.append rfl hcommand).append rfl).append
      rfl).append hboot).append rfl).append rfl) rfl)

theorem alike_imagePipeline (filename tree : String) :
    Alike SamePipeline (imagePipeline c filename tree) (imagePipeline c.veiled filename tree) := by
  unfold imagePipeline
  refine alike_bind alike_diskTable fun t t' ht => ?_
  subst ht
  exact alike_bind (alike_mapError _ (alike_imageStages ..)) fun ss ss' h =>
    .ok (samePipeline_of_stages h rfl)

theorem alike_deploymentPipeline :
    Alike SamePipeline (deploymentPipeline c) (deploymentPipeline c.veiled) := by
  unfold deploymentPipeline
  refine alike_bind_same fun ref => alike_bind_same fun o => alike_bind_same fun kernelOptions => ?_
  refine alike_ite (fun _ => alike_bind_same fun users => ?_)
    fun _ => alike_bind_same fun _ => alike_bind_same fun users => ?_
  all_goals
    refine alike_bind_same fun nodes => alike_bind alike_diskTable fun t t' ht => ?_
    subst ht
    have hboot := sameStages_bootloaderStages t c.arch .uefi "" c.target.release.product
    exact .ok (samePipeline_of_stages
      (((SameStages.append rfl (sameStages_fstabStage t)).append hboot).append rfl) rfl)

end

/-! ## Manifests -/

section

variable {c : Context}

theorem same_refl {ps : List Pipeline} : List.Forall₂ SamePipeline ps ps :=
  List.forall₂_same.2 fun _ _ => rfl

theorem sameManifest_of_pipelines {ps ps' : List Pipeline} {sources : List OstreeSource}
    (h : List.Forall₂ SamePipeline ps ps') :
    erased { pipelines := ps, ostreeSources := sources } =
      erased { pipelines := ps', ostreeSources := sources } := by
  have hmap : ps.map Pipeline.erased = ps'.map Pipeline.erased := by
    induction h with
    | nil => rfl
    | cons hp _ ih => rw [List.map_cons, List.map_cons, hp, ih]
  rw [erased, erased, hmap]

/-- The disk has no part in the pipelines behind the image. -/
theorem alike_assemble (hp : c.target.family.partitioned = true) :
    Alike (fun m m' => m.erased = m'.erased) (assemble c) (assemble c.veiled) := by
  have hf' : c.veiled.target.family = c.target.family := rfl
  unfold assemble
  rw [hf']
  cases hf : c.target.family with
  | disk =>
    refine alike_bind (alike_osPipeline _) fun os os' hos =>
      alike_bind (alike_imagePipeline ..) fun image image' himage => .ok ?_
    exact sameManifest_of_pipelines (.cons rfl (.cons hos (.cons himage same_refl)))
  | ostreeDisk =>
    refine alike_bind alike_deploymentPipeline fun deployment deployment' hd =>
      alike_bind (alike_imagePipeline ..) fun image image' himage =>
      alike_bind_same fun source => .ok ?_
    exact sameManifest_of_pipelines (.cons rfl (.cons hd (.cons himage same_refl)))
  | simplifiedInstaller =>
    refine alike_bind_same fun kernelOptions =>
      alike_bind alike_deploymentPipeline fun deployment deployment' hd =>
      alike_bind (alike_imagePipeline ..) fun image image' himage =>
      alike_bind_same fun source => .ok ?_
    exact sameManifest_of_pipelines (.cons rfl (.cons hd (.cons himage same_refl)))
  | _ =>
    rw [hf] at hp
    cases hp

end

/-! ## Requests -/

section

variable {t : Target} {b : Blueprint} {o : Options} {repositories : List Repository}

theorem alike_planTable {σ : Type} [Random.Source σ] (source source' : σ) :
    Alike (fun table table' => table.veiled = table'.veiled) (planTable t b o source)
      (planTable t b o source') := by
  unfold planTable
  cases t.table with
  | none =>
    cases Disk.checkMountpoints .standard b.settings.filesystem with
    | error e => exact .error _
    | ok sized => exact .error _
  | some base => exact Disk.alike_plan ..

theorem alike_build (hp : t.family.partitioned = true) (seed seed' : Int) :
    Alike (fun m m' => m.erased = m'.erased) (build t b o repositories seed)
      (build t b o repositories seed') := by
  rw [build_eq, build_eq, if_pos hp, if_pos hp]
  have hplanned : Alike (fun table table' : Option PartitionTable =>
      table.map PartitionTable.veiled = table'.map PartitionTable.veiled)
      (some <$> (planTable t b o (Random.Twister.ofSeed seed)).mapError BuildError.disk)
      (some <$> (planTable t b o (Random.Twister.ofSeed seed')).mapError BuildError.disk) :=
    alike_map (alike_mapError _ (alike_planTable _ _)) fun _ _ h => congrArg some h
  refine alike_bind hplanned fun table table' hveiled => ?_
  -- both contexts show the same once their tables are veiled
  have hcontext : (contextOf t b o repositories table).veiled =
      (contextOf t b o repositories table').veiled := by
    rw [Context.veiled, Context.veiled]
    exact congrArg (contextOf t b o repositories) hveiled
  have hassemble := alike_assemble (c := contextOf t b o repositories table) hp
  rw [hcontext] at hassemble
  exact alike_mapError _ (hassemble.join
    (alike_assemble (c := contextOf t b o repositories table') hp)
    fun _ _ _ h h' => h.trans h'.symm)

/-- Without partitions nothing is drawn. -/
theorem build_eq_of_not_partitioned (hp : t.family.partitioned = false) (seed seed' : Int) :
    build t b o repositories seed = build t b o repositories seed' := by
  have hn : ¬t.family.partitioned = true := by simp [hp]
  rw [build_eq, build_eq, if_neg hn, if_neg hn]

/-- The seed decides about identifiers only. With two seeds a request fails with one error, or its
manifests have the same warnings and are equal once identifiers are erased. Without partitions they
are equal outright. -/
theorem seeds_ofRequest (t : Target) (b : Blueprint) (o : Options) (repositories : List Repository)
    (seed seed' : Int) :
    (∃ e, ofRequest t b o repositories seed = .error e ∧
      ofRequest t b o repositories seed' = .error e) ∨
    ∃ m m' ws, ofRequest t b o repositories seed = .ok (m, ws) ∧
      ofRequest t b o repositories seed' = .ok (m', ws) ∧ m.erased = m'.erased ∧
      (t.family.partitioned = false → m = m') := by
  have hbuild : Alike (fun m m' => m.erased = m'.erased ∧ (t.family.partitioned = false → m = m'))
      (build t b o repositories seed) (build t b o repositories seed') := by
    cases hp : t.family.partitioned with
    | true => exact (alike_build hp seed seed').mono fun _ _ h => ⟨h, nofun⟩
    | false =>
      rw [build_eq_of_not_partitioned hp seed seed']
      exact alike_refl (fun _ => ⟨rfl, fun _ => rfl⟩) _
  have hrequest : Alike (fun r r' => r.2 = r'.2 ∧ r.1.erased = r'.1.erased ∧
      (t.family.partitioned = false → r.1 = r'.1))
      (ofRequest t b o repositories seed) (ofRequest t b o repositories seed') := by
    rw [ofRequest_eq, ofRequest_eq]
    exact alike_bind_same fun ws => alike_bind (alike_mapError _ hbuild) fun m m' h => .ok ⟨rfl, h⟩
  generalize ofRequest t b o repositories seed = x at hrequest
  generalize ofRequest t b o repositories seed' = x' at hrequest
  cases hrequest with
  | error e => exact .inl ⟨e, rfl, rfl⟩
  | @ok r r' h =>
    obtain ⟨hws, herased, hsame⟩ := h
    exact .inr ⟨r.1, r'.1, r'.2, by rw [← hws], rfl, herased, hsame⟩

end

end Imagewright.Manifest
