import Imagewright.Proofs.Manifest.Pipelines
import Imagewright.Proofs.Manifest.Totality

/-!
# Tree and image agree on filesystems

The tree of an operating system says which filesystems it mounts and boots from, and the image of
its disk makes them. Both are told the same identifiers and labels.

## Main definitions

* `Manifest.stagesOf`, `Manifest.fstabLines`, `Manifest.makeStages`: what a pipeline says about
  filesystems.
* `Manifest.MadeAt`: a stage makes the filesystem that is mounted at a path.
* `Manifest.FilesystemsAgree`: a tree and an image agree on their filesystems.
* `Manifest.Findable`: what a table promises to those that look for its filesystems.
* `Manifest.Names`, `Manifest.Makes`: how a tree and an image use the filesystems of a table.

## Main statements

* `Manifest.Names.filesystemsAgree`: a tree that names filesystems agrees with an image that makes
  them.
* `Manifest.filesystemsAgree_ofRequest`: tree and image of a request agree.
-/
namespace Imagewright

/-- The field of an object, if there is one. -/
def Value.at? (v : Value) (key : String) : Option Value :=
  match v with
  | .obj fields => Assoc.get? fields key
  | _ => none

/-- What a value holds, if it is a list. -/
def Value.listed : Value → List Value
  | .list items => items
  | _ => []

namespace Manifest

open Catalog (Target)
open Disk (Filesystem Mountable PartitionTable RootLabel)
open Request (Options Warning)

/-! ## What pipelines say about filesystems -/

def Stage.option? (s : Stage) (key : String) : Option Value := Assoc.get? s.options key

def stagesOf (type : String) (ss : List Stage) : List Stage :=
  ss.filter (·.type == "org.osbuild." ++ type)

def Stage.makesFilesystem (s : Stage) : Bool := "org.osbuild.mkfs.".toList.isPrefixOf s.type.toList

/-- The lines of the table of filesystems of a tree. -/
def fstabLines (tree : Pipeline) : List Value :=
  (stagesOf "fstab" tree.stages).flatMap fun s => ((s.option? "filesystems").map (·.listed)).getD []

/-- The stages of an image that make filesystems. -/
def makeStages (image : Pipeline) : List Stage := image.stages.filter (·.makesFilesystem)

/-- Where something is mounted. -/
def Mount.target? : Mount → Option Value
  | .filesystem m => some m.target
  | .other _ => none

/-- A stage of an image makes the filesystem that a tree mounts at a path. -/
def MadeAt (tree image : Pipeline) (path : String) (s : Stage) : Prop :=
  ∃ line, (line, s) ∈ (fstabLines tree).zip (makeStages image) ∧ line.at? "path" = some (.str path)

/-- A tree and an image agree on the filesystems of a table. -/
structure FilesystemsAgree (t : Target) (table : PartitionTable) (tree image : Pipeline) :
    Prop where
  /-- The tree has one table of filesystems. -/
  fstab : ∃ s, stagesOf "fstab" tree.stages = [s]
  /-- The tree mounts the filesystems of the table. -/
  mounted : (fstabLines tree).map (·.at? "path") = table.filesystems.map fun f => some f.mountpoint
  /-- The image makes the filesystems that the tree mounts, in the same order and with the same
  identifiers. -/
  made : List.Forall₂ (fun line s => ∃ uuid, line.at? "uuid" = some uuid ∧
    s.option? "uuid" = some uuid) (fstabLines tree) (makeStages image)
  /-- While the tree is copied, each path is mounted once. -/
  copied : ∃ copy, stagesOf "copy" image.stages = [copy] ∧
    (copy.mounts.map Mount.target?).Perm ((fstabLines tree).map (·.at? "path")) ∧
    (copy.mounts.map Mount.target?).Nodup
  /-- The kernel of a disk image looks for the root filesystem. -/
  kernel : t.family = .disk → ∃ s k, MadeAt tree image "/" s ∧
    stagesOf "kernel-cmdline" tree.stages = [k] ∧ k.option? "root_fs_uuid" = s.option? "uuid"
  /-- The boot loader looks for the root filesystem and the one with the kernels. -/
  loader : t.arch ≠ "s390x" → ∃ root boot g, MadeAt tree image "/" root ∧
    MadeAt tree image "/boot" boot ∧ stagesOf "grub2" tree.stages = [g] ∧
    g.option? "root_fs_uuid" = root.option? "uuid" ∧
    g.option? "boot_fs_uuid" = boot.option? "uuid"
  /-- A deployment finds the root filesystem by a label that no other one has, and its mounts are
  filesystems of the tree. -/
  deployment : t.family.takesCommit = true → ∃ d rootfs label paths,
    stagesOf "ostree.deploy" tree.stages = [d] ∧
    d.option? "rootfs" = some rootfs ∧ rootfs.at? "label" = some label ∧
    (∃ s, MadeAt tree image "/" s) ∧
    (∀ line s, (line, s) ∈ (fstabLines tree).zip (makeStages image) →
      (s.option? "label" = some label ↔ line.at? "path" = some (.str "/"))) ∧
    d.option? "mounts" = some (Value.texts paths) ∧
    ∀ path ∈ paths, some (.str path) ∈ (fstabLines tree).map (·.at? "path")

/-! ## Stages by their types -/

theorem stagesOf_append (type : String) (ss ts : List Stage) :
    stagesOf type (ss ++ ts) = stagesOf type ss ++ stagesOf type ts := List.filter_append ..

theorem stagesOf_eq_nil {type : String} {ss : List Stage}
    (h : ∀ s ∈ ss, s.type ≠ "org.osbuild." ++ type) : stagesOf type ss = [] := by
  simpa [stagesOf] using h

theorem Customizing.stagesOf_eq {ss : List Stage} (h : Customizing ss) {type : String}
    (ht : "org.osbuild." ++ type ∉ customizationTypes) : stagesOf type ss = [] :=
  stagesOf_eq_nil fun s hs he => ht (he ▸ (h s hs).1)

theorem stagesOf_servicesStage? {c : Context} {type : String}
    (ht : "org.osbuild." ++ type ≠ "org.osbuild.systemd") :
    stagesOf type (servicesStage? c).toList = [] := by
  refine stagesOf_eq_nil fun s hs he => ht ?_
  rw [← he, (servicesStage?_eq_some (Option.mem_toList.1 hs)).1]

theorem stagesOf_bootloaderStages {t : PartitionTable} {arch : String} {mode : Catalog.BootMode}
    {kernelOptions : Value} {product type : String}
    (hg : "org.osbuild." ++ type ≠ "org.osbuild.grub2")
    (hz : "org.osbuild." ++ type ≠ "org.osbuild.zipl") :
    stagesOf type (bootloaderStages t arch mode kernelOptions product) = [] := by
  refine stagesOf_eq_nil fun s hs he => ?_
  unfold bootloaderStages at hs
  split at hs
  · obtain rfl := List.mem_singleton.1 hs
    exact hz he.symm
  · obtain rfl := List.mem_singleton.1 hs
    exact hg he.symm

section

variable {c : Context} {p : Pipeline}

/-! ## The tree -/

/-- Neither customizations nor units are among the stages of most types. -/
theorem stagesOf_osPipeline {t : PartitionTable} (ht : c.table = some t)
    (h : osPipeline c = .ok p) : ∃ kernelOptions, ∀ type,
      "org.osbuild." ++ type ∉ customizationTypes →
      "org.osbuild." ++ type ≠ "org.osbuild.systemd" →
      stagesOf type p.stages = stagesOf type (
        [installStage (c.repositoriesFor "os")] ++ commandLineStages t kernelOptions ++
          [fstabStage t] ++ bootloaderStages t c.arch c.target.bootMode kernelOptions
            c.target.release.product ++ [selinuxStage]) := by
  obtain ⟨kernelOptions, customizations, -, hc, rfl⟩ := osPipeline_eq_ok.1 h
  refine ⟨kernelOptions, fun type htype hunit => ?_⟩
  have hboot : bootStages c t kernelOptions = [fstabStage t] ++
      bootloaderStages t c.arch c.target.bootMode kernelOptions c.target.release.product := rfl
  simp only [Context.pipeline, Context.plainPipeline, ht, Option.map_some, Option.getD_some,
    Bool.false_eq_true, if_false, hboot, stagesOf_append,
    (customizing_customizationStages hc).stagesOf_eq htype, stagesOf_servicesStage? hunit,
    List.append_nil, List.nil_append, List.append_assoc]

theorem stagesOf_deploymentPipeline {t : PartitionTable} (ht : c.table = some t)
    (h : deploymentPipeline c = .ok p) : ∃ ref remoteUrl kernelOptions, ∀ type,
      "org.osbuild." ++ type ∉ customizationTypes →
      "org.osbuild." ++ type ≠ "org.osbuild.systemd" →
      stagesOf type p.stages = stagesOf type (
        deployStages ref remoteUrl kernelOptions ++ [fstabStage t] ++
          bootloaderStages t c.arch .uefi "" c.target.release.product ++
          [stage "ostree.selinux" [
            ("deployment", .obj [("osname", .str deploymentName), ("ref", .str ref)])]]) := by
  obtain ⟨ref, o, kernelOptions, users, nodes, t', -, -, -, husers, hnodes, ht', rfl⟩ :=
    deploymentPipeline_eq_ok.1 h
  obtain rfl : t' = t := Option.some.inj (ht'.symm.trans ht)
  refine ⟨ref, if o.contentUrl.truthy then o.contentUrl else o.url, kernelOptions,
    fun type htype hunit => ?_⟩
  have hgroups : Customizing
      (if c.settings.groups.isEmpty then [] else [groupsStage c.settings]) :=
    .ite .nil customizing_groupsStage
  simp only [Context.plainPipeline, stagesOf_append, hgroups.stagesOf_eq htype,
    (customizing_optionalUsers husers).stagesOf_eq htype,
    (customizing_nodeStages hnodes).stagesOf_eq htype, stagesOf_servicesStage? hunit,
    List.append_nil]

/-! ## The image -/

theorem makesFilesystem_makeFilesystemStage (filename : Value) (q : Disk.Partition)
    (f : Filesystem) : (makeFilesystemStage filename q f).makesFilesystem = true := by
  have key : ∀ type : Disk.FilesystemType, "org.osbuild.mkfs.".toList.isPrefixOf
      ("org.osbuild." ++ ("mkfs." ++ type.moduleName)).toList = true := by
    intro type
    cases type <;> decide
  exact key f.type

theorem type_of_mem_bootloaderInstallStages {filename : Value} {arch : String}
    {mode : Catalog.BootMode} {s : Stage} (h : s ∈ bootloaderInstallStages filename arch mode) :
    s.type = "org.osbuild.grub2.inst" := by
  unfold bootloaderInstallStages at h
  split at h
  · rw [List.mem_singleton.1 h]
    rfl
  · cases h

section

variable {t : PartitionTable} {filename : Value} {arch source : String} {mode : Catalog.BootMode}
  {ss : List Stage}

theorem makes_imageStages (h : imageStages t filename arch mode source = .ok ss) :
    ss.filter (·.makesFilesystem) = (placed t).map fun f =>
      makeFilesystemStage filename f.partition f.filesystem := by
  obtain ⟨copy, hcopy, rfl⟩ := imageStages_eq_ok.1 h
  obtain ⟨-, rfl⟩ := copyStage_eq_ok.1 hcopy
  have hmake : ∀ s ∈ (placed t).map fun f =>
      makeFilesystemStage filename f.partition f.filesystem, s.makesFilesystem = true := by
    intro s hs
    obtain ⟨f, -, rfl⟩ := List.mem_map.1 hs
    exact makesFilesystem_makeFilesystemStage ..
  have hinstall : (bootloaderInstallStages filename arch mode).filter (·.makesFilesystem) = [] := by
    refine List.filter_eq_nil_iff.2 fun s hs => ?_
    rw [Stage.makesFilesystem, type_of_mem_bootloaderInstallStages hs]
    decide
  simp only [List.filter_append, List.filter_eq_self.2 hmake, hinstall]
  simp [Stage.makesFilesystem, truncateStage, partitionStage, stage]

/-- The stages of a type that makes no filesystems are not among those that do. -/
theorem stagesOf_imageStages (h : imageStages t filename arch mode source = .ok ss) (type : String)
    (htype : "org.osbuild.mkfs.".toList.isPrefixOf ("org.osbuild." ++ type).toList = false) :
    ∃ copy, copyStage t source = .ok copy ∧ stagesOf type ss =
      stagesOf type [truncateStage t filename, partitionStage t filename, copy] ++
        stagesOf type (bootloaderInstallStages filename arch mode) := by
  obtain ⟨copy, hcopy, rfl⟩ := imageStages_eq_ok.1 h
  have hmake : stagesOf type ((placed t).map fun f =>
      makeFilesystemStage filename f.partition f.filesystem) = [] := by
    refine stagesOf_eq_nil fun s hs he => ?_
    obtain ⟨f, -, rfl⟩ := List.mem_map.1 hs
    have hmakes := makesFilesystem_makeFilesystemStage filename f.partition f.filesystem
    rw [Stage.makesFilesystem, he, htype] at hmakes
    cases hmakes
  refine ⟨copy, hcopy, ?_⟩
  rw [stagesOf_append, stagesOf_append, stagesOf_append, hmake, List.append_nil, ← stagesOf_append]
  rfl

theorem stagesOf_bootloaderInstallStages {type : String}
    (htype : "org.osbuild." ++ type ≠ "org.osbuild.grub2.inst") :
    stagesOf type (bootloaderInstallStages filename arch mode) = [] :=
  stagesOf_eq_nil fun _ hs he => htype (he.symm.trans (type_of_mem_bootloaderInstallStages hs))

theorem copies_imageStages (h : imageStages t filename arch mode source = .ok ss) :
    ∃ copy, copyStage t source = .ok copy ∧ stagesOf "copy" ss = [copy] := by
  obtain ⟨copy, hcopy, hstages⟩ := stagesOf_imageStages h "copy" (by decide)
  have htype : copy.type = "org.osbuild.copy" := by
    obtain ⟨-, rfl⟩ := copyStage_eq_ok.1 hcopy
    rfl
  refine ⟨copy, hcopy, ?_⟩
  rw [hstages, stagesOf_bootloaderInstallStages (by decide)]
  simp [stagesOf, truncateStage, partitionStage, stage, htype]

theorem truncates_imageStages (h : imageStages t filename arch mode source = .ok ss) :
    stagesOf "truncate" ss = [truncateStage t filename] := by
  obtain ⟨copy, hcopy, hstages⟩ := stagesOf_imageStages h "truncate" (by decide)
  obtain ⟨-, rfl⟩ := copyStage_eq_ok.1 hcopy
  rw [hstages, stagesOf_bootloaderInstallStages (by decide)]
  rfl

end

theorem makeStages_imagePipeline {t : PartitionTable} (ht : c.table = some t)
    {filename tree : String} (h : imagePipeline c filename tree = .ok p) :
    makeStages p = (placed t).map fun f =>
      makeFilesystemStage filename f.partition f.filesystem :=
  makes_imageStages (imageStages_of_imagePipeline ht h)

theorem copyStages_imagePipeline {t : PartitionTable} (ht : c.table = some t)
    {filename tree : String} (h : imagePipeline c filename tree = .ok p) :
    ∃ copy, stagesOf "copy" p.stages = [copy] ∧
      copy.mounts = (sortMounts ((placed t).map (·.mount))).map .filesystem := by
  obtain ⟨copy, hcopy, hstages⟩ := copies_imageStages (imageStages_of_imagePipeline ht h)
  obtain ⟨-, rfl⟩ := copyStage_eq_ok.1 hcopy
  exact ⟨_, hstages, rfl⟩

end

/-! ## Mounts -/

theorem insertMount_perm (m : FilesystemMount) (ms : List FilesystemMount) :
    (insertMount m ms).Perm (m :: ms) := by
  induction ms with
  | nil => exact .refl _
  | cons n ms ih =>
    unfold insertMount
    split
    · exact (ih.cons n).trans (.swap m n ms)
    · exact .refl _

theorem sortMounts_perm (ms : List FilesystemMount) : (sortMounts ms).Perm ms := by
  induction ms with
  | nil => exact .refl _
  | cons m ms ih => exact (insertMount_perm m _).trans (ih.cons m)

/-! ## Agreement -/

/-- The filesystems of a table can be found by their paths, the root by its label as well, and each
has an identifier. -/
structure Findable (table : PartitionTable) : Prop where
  mountable : Mountable table
  rootLabel : RootLabel "root" table
  boot : ∃ f ∈ table.filesystems, f.mountpoint = "/boot"
  identified : ∀ f ∈ table.filesystems, f.uuid.truthy = true

theorem findable_planTable {σ : Type} [Random.Source σ] {source : σ} {t : Target}
    (ht : Catalog.Fedora.Listed t) (hp : t.family.partitioned = true) {b : Blueprint} {o : Options}
    {table : PartitionTable} (h : planTable t b o source = .ok table) :
    Findable table ∧ (t.family.takesCommit = true →
      ∃ f ∈ table.filesystems, f.mountpoint = "/boot/efi") := by
  obtain ⟨base, hbase, hplan⟩ := planTable_eq_ok.1 h
  obtain ⟨base', hbase', hstandard⟩ := ht.table_eq_some hp
  obtain rfl : base' = base := Option.some.inj (hbase'.symm.trans hbase)
  refine ⟨⟨Disk.mountable_plan hstandard.mountable hplan,
    Disk.rootLabel_plan (by decide) hstandard.rootLabel hstandard.mountable hplan,
    Disk.exists_mountpoint_plan hstandard.boot hplan,
    Disk.truthy_uuid_plan hstandard.noExtended hplan⟩, fun hcommit => ?_⟩
  exact Disk.exists_mountpoint_plan (ht.exists_efiSystem hp hcommit hbase) hplan

/-- What a tree says about the filesystems of a table. -/
structure Names (t : Target) (table : PartitionTable) (tree : Pipeline) : Prop where
  fstab : stagesOf "fstab" tree.stages = [fstabStage table]
  kernel : t.family = .disk → ∃ kernelOptions,
    stagesOf "kernel-cmdline" tree.stages = [kernelCommandStage (filesystemUuid table "/")
      kernelOptions]
  loader : ∃ mode kernelOptions product, stagesOf "grub2" tree.stages =
    stagesOf "grub2" (bootloaderStages table t.arch mode kernelOptions product)
  deployment : t.family.takesCommit = true → ∃ d,
    stagesOf "ostree.deploy" tree.stages = [d] ∧
    d.option? "rootfs" = some (.obj [("label", "root")]) ∧
    d.option? "mounts" = some (Value.texts ["/boot", "/boot/efi"])

/-- What an image does with the filesystems of a table. -/
structure Makes (table : PartitionTable) (image : Pipeline) : Prop where
  made : ∃ file, makeStages image = (placed table).map fun f =>
    makeFilesystemStage file f.partition f.filesystem
  copied : ∃ copy, stagesOf "copy" image.stages = [copy] ∧
    copy.mounts = (sortMounts ((placed table).map (·.mount))).map .filesystem

theorem filesystemUuid_eq {t : PartitionTable} (ht : Mountable t) {f : Filesystem}
    (hf : f ∈ t.filesystems) {path : String} (hpath : f.mountpoint = path) :
    filesystemUuid t path = f.uuid := by
  obtain ⟨q, hq, hqf⟩ := ht.find? hf hpath
  simp [filesystemUuid, hq, hqf]

theorem option?_label_makeFilesystemStage {file : Value} {q : Disk.Partition} {f : Filesystem} :
    (makeFilesystemStage file q f).option? "label" = some (.str "root") ↔ f.label = "root" := by
  by_cases ht : f.label.truthy = true
  · simp [Stage.option?, makeFilesystemStage, stage, Assoc.get?, ht]
  · have hne : f.label ≠ "root" := fun h => ht (h ▸ rfl)
    simp [Stage.option?, makeFilesystemStage, stage, Assoc.get?, ht, hne]

section

variable {t : Target} {table : PartitionTable} {tree image : Pipeline} {file : Value}

theorem fstabLines_eq (h : stagesOf "fstab" tree.stages = [fstabStage table]) :
    fstabLines tree = table.filesystems.map fstabEntry := by
  rw [fstabLines, h]
  exact List.append_nil _

theorem map_path_fstabLines (h : stagesOf "fstab" tree.stages = [fstabStage table]) :
    (fstabLines tree).map (·.at? "path") = table.filesystems.map fun f => some f.mountpoint := by
  rw [fstabLines_eq h, List.map_map]
  rfl

theorem zip_fstabLines (hf : stagesOf "fstab" tree.stages = [fstabStage table])
    (hm : makeStages image = (placed table).map fun f =>
      makeFilesystemStage file f.partition f.filesystem) :
    (fstabLines tree).zip (makeStages image) = (placed table).map fun f =>
      (fstabEntry f.filesystem, makeFilesystemStage file f.partition f.filesystem) := by
  rw [fstabLines_eq hf, hm, ← map_filesystem_placed, List.map_map, List.zip_map']
  rfl

theorem exists_madeAt (htable : Findable table)
    (hf : stagesOf "fstab" tree.stages = [fstabStage table])
    (hm : makeStages image = (placed table).map fun f =>
      makeFilesystemStage file f.partition f.filesystem) {path : String}
    (hpath : ∃ f ∈ table.filesystems, f.mountpoint = path) :
    ∃ s, MadeAt tree image path s ∧ s.option? "uuid" = some (filesystemUuid table path) ∧
      (filesystemUuid table path).truthy = true := by
  obtain ⟨f, hmem, hpath⟩ := hpath
  have huuid := filesystemUuid_eq htable.mountable hmem hpath
  rw [huuid]
  have htruthy := htable.identified f hmem
  rw [← map_filesystem_placed] at hmem
  obtain ⟨g, hg, rfl⟩ := List.mem_map.1 hmem
  refine ⟨makeFilesystemStage file g.partition g.filesystem,
    ⟨fstabEntry g.filesystem, ?_, ?_⟩, rfl, htruthy⟩
  · rw [zip_fstabLines hf hm]
    exact List.mem_map_of_mem hg
  · rw [← hpath]
    rfl

/-- The label of the root filesystem is given to the one that is mounted there and to no other. -/
theorem label_eq_root_iff (htable : Findable table)
    (hf : stagesOf "fstab" tree.stages = [fstabStage table])
    (hm : makeStages image = (placed table).map fun f =>
      makeFilesystemStage file f.partition f.filesystem) {line : Value} {s : Stage}
    (h : (line, s) ∈ (fstabLines tree).zip (makeStages image)) :
    s.option? "label" = some (.str "root") ↔ line.at? "path" = some (.str "/") := by
  rw [zip_fstabLines hf hm] at h
  obtain ⟨f, hmem, hfs⟩ := List.mem_map.1 h
  obtain ⟨rfl, rfl⟩ := Prod.mk.inj hfs
  rw [option?_label_makeFilesystemStage, htable.rootLabel _ (filesystem_mem_of_placed hmem)]
  exact (Option.some_inj (a := f.filesystem.mountpoint)).symm

/-- Each path of the table of filesystems is the target of one mount. -/
theorem perm_targets (hf : stagesOf "fstab" tree.stages = [fstabStage table]) {copy : Stage}
    (hc : copy.mounts = (sortMounts ((placed table).map (·.mount))).map .filesystem) :
    (copy.mounts.map Mount.target?).Perm ((fstabLines tree).map (·.at? "path")) := by
  have hpaths : (fstabLines tree).map (·.at? "path") =
      ((placed table).map (·.mount)).map (some ·.target) := by
    rw [map_path_fstabLines hf, ← map_filesystem_placed, List.map_map, List.map_map]
    rfl
  rw [hpaths, hc, List.map_map]
  exact (sortMounts_perm _).map _

theorem bootloaderStages_eq {arch : String} (harch : arch ≠ "s390x")
    (hboot : (filesystemUuid table "/boot").truthy = true) (mode : Catalog.BootMode)
    (kernelOptions : Value) (product : String) :
    bootloaderStages table arch mode kernelOptions product =
      [stage "grub2" ([("root_fs_uuid", filesystemUuid table "/"),
        ("kernel_opts", kernelOptions), ("boot_fs_uuid", filesystemUuid table "/boot")] ++
        firmwareOptions arch mode product)] := by
  simp [bootloaderStages, harch, hboot]

/-- A tree that names the filesystems of a table agrees with an image that makes them. -/
theorem Names.filesystemsAgree (h : Names t table tree) (hi : Makes table image)
    (htable : Findable table) (hefi : t.family.takesCommit = true →
      ∃ f ∈ table.filesystems, f.mountpoint = "/boot/efi") :
    FilesystemsAgree t table tree image := by
  obtain ⟨file, hmade⟩ := hi.made
  obtain ⟨copy, hcopy, hmounts⟩ := hi.copied
  have hmounted := map_path_fstabLines h.fstab
  obtain ⟨root, hroot, hroot_uuid, -⟩ :=
    exists_madeAt htable h.fstab hmade htable.mountable.root
  refine ⟨⟨_, h.fstab⟩, hmounted, ?_, ?_, fun hdisk => ?_, fun harch => ?_, fun hcommit => ?_⟩
  · rw [fstabLines_eq h.fstab, hmade, ← map_filesystem_placed, List.map_map,
      List.forall₂_map_left_iff, List.forall₂_map_right_iff, List.forall₂_same]
    exact fun f _ => ⟨f.filesystem.uuid, rfl, rfl⟩
  · have hperm := perm_targets h.fstab hmounts
    refine ⟨copy, hcopy, hperm, hperm.nodup_iff.2 ?_⟩
    rw [hmounted]
    simpa [Function.comp_def] using htable.mountable.nodup.map fun _ _ => Option.some.inj
  · obtain ⟨kernelOptions, hkernel⟩ := h.kernel hdisk
    exact ⟨root, _, hroot, hkernel, hroot_uuid.symm⟩
  · obtain ⟨mode, kernelOptions, product, hloader⟩ := h.loader
    obtain ⟨boot, hboot, hboot_uuid, htruthy⟩ := exists_madeAt htable h.fstab hmade htable.boot
    rw [bootloaderStages_eq harch htruthy] at hloader
    exact ⟨root, boot, _, hroot, hboot, hloader, hroot_uuid.symm, hboot_uuid.symm⟩
  · obtain ⟨d, hdeploy, hrootfs, hpaths⟩ := h.deployment hcommit
    refine ⟨d, _, _, _, hdeploy, hrootfs, rfl, ⟨root, hroot⟩,
      fun _ _ => label_eq_root_iff htable h.fstab hmade, hpaths, fun path hpath => ?_⟩
    have hmem : ∃ f ∈ table.filesystems, f.mountpoint = path := by
      rcases List.mem_cons.1 hpath with rfl | hpath
      · exact htable.boot
      · rw [List.mem_singleton.1 hpath]
        exact hefi hcommit
    obtain ⟨f, hf, hpath⟩ := hmem
    rw [hmounted, ← hpath]
    exact List.mem_map_of_mem hf

end

/-! ## Pipelines -/

section

variable {c : Context} {table : PartitionTable} {p : Pipeline}

theorem names_osPipeline (ht : c.table = some table) (hf : c.target.family = .disk)
    (h : osPipeline c = .ok p) : Names c.target table p := by
  -- No customization is of a type that speaks of filesystems, so none can get in the way.
  obtain ⟨kernelOptions, hstages⟩ := stagesOf_osPipeline ht h
  refine ⟨?_, fun _ => ⟨kernelOptions, ?_⟩,
    ⟨c.target.bootMode, kernelOptions, c.target.release.product, ?_⟩, fun hcommit => ?_⟩
  · rw [hstages "fstab" (by decide) (by decide), stagesOf_append, stagesOf_append,
      stagesOf_bootloaderStages (by decide) (by decide)]
    rfl
  · rw [hstages "kernel-cmdline" (by decide) (by decide), stagesOf_append, stagesOf_append,
      stagesOf_bootloaderStages (by decide) (by decide)]
    rfl
  · rw [hstages "grub2" (by decide) (by decide), stagesOf_append, stagesOf_append]
    exact List.append_nil _
  · rw [hf] at hcommit
    cases hcommit

theorem names_deploymentPipeline (ht : c.table = some table) (hf : c.target.family ≠ .disk)
    (h : deploymentPipeline c = .ok p) : Names c.target table p := by
  obtain ⟨ref, remoteUrl, kernelOptions, hstages⟩ := stagesOf_deploymentPipeline ht h
  refine ⟨?_, fun hdisk => absurd hdisk hf, ⟨.uefi, "", c.target.release.product, ?_⟩,
    fun _ => ?_⟩
  · rw [hstages "fstab" (by decide) (by decide), stagesOf_append, stagesOf_append,
      stagesOf_bootloaderStages (by decide) (by decide)]
    rfl
  · rw [hstages "grub2" (by decide) (by decide), stagesOf_append, stagesOf_append]
    exact List.append_nil _
  · have hdeploy := hstages "ostree.deploy" (by decide) (by decide)
    rw [stagesOf_append, stagesOf_append, stagesOf_bootloaderStages (by decide) (by decide)]
      at hdeploy
    exact ⟨_, hdeploy, rfl, rfl⟩

theorem makes_imagePipeline (ht : c.table = some table) {filename tree : String}
    (h : imagePipeline c filename tree = .ok p) : Makes table p :=
  ⟨⟨_, makeStages_imagePipeline ht h⟩, copyStages_imagePipeline ht h⟩

/-- The name of the pipeline with the tree that a disk is made from. -/
def treeName (t : Target) : String := if t.family.takesCommit then "ostree-deployment" else "os"

/-- The tree and the image of a disk follow the build root. -/
theorem names_and_makes_of_disk {m : Manifest} {tree image : Pipeline} {rest : List Pipeline}
    {filename source : String} (hm : m.pipelines = buildPipeline c :: tree :: image :: rest)
    (ht : c.table = some table) (himage : imagePipeline c filename source = .ok image)
    (htree : tree.name = treeName c.target) (hnames : Names c.target table tree) :
    ∃ tree image, m.pipeline? (treeName c.target) = some tree ∧
      m.pipeline? "image" = some image ∧ Names c.target table tree ∧ Makes table image := by
  have hname : treeName c.target = "os" ∨ treeName c.target = "ostree-deployment" := by
    unfold treeName
    split <;> simp
  have hbuild : (buildPipeline c).name = "build" := rfl
  have himage_name : image.name = "image" := (imagePipeline_builtAs himage).1.name_eq
  refine ⟨tree, image, ?_, ?_, hnames, makes_imagePipeline ht himage⟩
  · rcases hname with hname | hname <;> simp [pipeline?, hm, hbuild, htree, hname]
  · rcases hname with hname | hname <;> simp [pipeline?, hm, hbuild, htree, himage_name, hname]

/-- In what is assembled, the tree names the filesystems of the table and the image makes them. -/
theorem names_and_makes_assemble (ht : c.table = some table)
    (hp : c.target.family.partitioned = true) {m : Manifest} (h : assemble c = .ok m) :
    ∃ tree image, m.pipeline? (treeName c.target) = some tree ∧
      m.pipeline? "image" = some image ∧ Names c.target table tree ∧ Makes table image := by
  unfold assemble at h
  split at h <;> rename_i hf
  case h_1 =>
    obtain ⟨os, image, hos, himage, rfl⟩ := diskManifest_eq_ok.1 h
    refine names_and_makes_of_disk rfl ht himage ?_ (names_osPipeline ht hf hos)
    rw [(osPipeline_builtAs hos).name_eq, treeName, hf]
    rfl
  case h_5 =>
    obtain ⟨deployment, image, source, hd, himage, -, rfl⟩ := deployedDiskManifest_eq_ok.1 h
    obtain ⟨ref, -, hbuilt⟩ := deploymentPipeline_builtAs hd
    refine names_and_makes_of_disk rfl ht himage ?_ (names_deploymentPipeline ht (by simp [hf]) hd)
    rw [hbuilt.name_eq, treeName, hf]
    rfl
  case h_9 =>
    obtain ⟨_, deployment, image, source, -, hd, himage, -, rfl⟩ :=
      simplifiedInstallerManifest_eq_ok.1 h
    obtain ⟨ref, -, hbuilt⟩ := deploymentPipeline_builtAs hd
    refine names_and_makes_of_disk rfl ht himage ?_ (names_deploymentPipeline ht (by simp [hf]) hd)
    rw [hbuilt.name_eq, treeName, hf]
    rfl
  all_goals
    rw [hf] at hp
    cases hp

end

/-! ## Requests -/

/-- In the manifest of a request for a disk, the tree and the image agree on the filesystems of
the planned table. -/
theorem filesystemsAgree_ofRequest {distribution arch name : String} {t : Target} {b : Blueprint}
    {o : Options} {repositories : List Repository} {seed : Int} {m : Manifest} {ws : List Warning}
    (ht : Catalog.Fedora.registry.get distribution arch name = .ok t)
    (hp : t.family.partitioned = true) (h : ofRequest t b o repositories seed = .ok (m, ws)) :
    ∃ table tree image, planTable t b o (Random.Twister.ofSeed seed) = .ok table ∧
      m.pipeline? (treeName t) = some tree ∧ m.pipeline? "image" = some image ∧
      FilesystemsAgree t table tree image := by
  obtain ⟨-, hbuild⟩ := ofRequest_eq_ok.1 h
  obtain ⟨table?, htable, hassemble⟩ := build_eq_ok.1 hbuild
  rw [if_pos hp] at htable
  obtain ⟨table, hplan, rfl⟩ := htable
  obtain ⟨hfind, hefi⟩ := findable_planTable (Catalog.Fedora.listed_of_get ht) hp hplan
  obtain ⟨tree, image, htree, himage, hnames, hmakes⟩ :=
    names_and_makes_assemble (c := contextOf t b o repositories (some table)) rfl hp hassemble
  exact ⟨table, tree, image, hplan, htree, himage, hnames.filesystemsAgree hmakes hfind hefi⟩

theorem filesystemsAgree_ofRequest_iotRawImage :
    ∃ t m, Catalog.Fedora.registry.get "fedora-40" "aarch64" "iot-raw-image" = .ok t ∧
      t.family.partitioned = true ∧
      ofRequest t {} { ostree := some { url := "https://example.com/repo" } } [] 7 =
        .ok (m, []) ∧
      ∃ table tree image, planTable t {} { ostree := some { url := "https://example.com/repo" } }
          (Random.Twister.ofSeed 7) = .ok table ∧
        m.pipeline? (treeName t) = some tree ∧ m.pipeline? "image" = some image ∧
        FilesystemsAgree t table tree image := by
  obtain ⟨t, m, ht, hf, h⟩ := ofRequest_iotRawImage
  have hp : t.family.partitioned = true := by rw [hf]; rfl
  exact ⟨t, m, ht, hp, h, filesystemsAgree_ofRequest ht hp h⟩

end Manifest
end Imagewright
