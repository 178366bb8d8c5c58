import Imagewright.Proofs.Manifest.Filesystems

/-!
# The shapes of manifests

Which pipelines a family has, which of them install packages, and of which types their stages are.
Each pipeline is described once; what a manifest holds or lacks is then read off a finite table.

## Main definitions

* `Manifest.OfTypes`: stages of some types.
* `Manifest.Shape`: the name of a pipeline, whether it installs packages, and its types of stages.
* `Manifest.shapesOf`: the shapes that the manifests of a family may have.

## Main statements

* `Manifest.shaped_assemble`: what is assembled has one of the shapes of its family.
-/
namespace Imagewright.Manifest

open Catalog (Family)
open Context (plainPipeline)

/-- The types of stages that modules of these names run. -/
def moduleTypes (names : List String) : List String := names.map ("org.osbuild." ++ ·)

def OfTypes (types : List String) (ss : List Stage) : Prop := ∀ s ∈ ss, s.type ∈ types

section

variable {types : List String} {ss ts : List Stage}

theorem OfTypes.nil : OfTypes types [] := fun _ h => absurd h List.not_mem_nil

theorem OfTypes.append (hs : OfTypes types ss) (ht : OfTypes types ts) :
    OfTypes types (ss ++ ts) := List.forall_mem_append.2 ⟨hs, ht⟩

theorem OfTypes.mono {others : List String} (h : ∀ type ∈ types, type ∈ others)
    (hs : OfTypes types ss) : OfTypes others ss := fun s hm => h _ (hs s hm)

theorem OfTypes.ite {p : Prop} [Decidable p] (hs : OfTypes types ss) (ht : OfTypes types ts) :
    OfTypes types (if p then ss else ts) := by
  split
  · exact hs
  · exact ht

/-- Stages that are written out have the types that are read off them. -/
theorem ofTypes_of_map (names : List String) (h : ss.map (·.type) = moduleTypes names)
    (hsub : ∀ type ∈ moduleTypes names, type ∈ types) : OfTypes types ss := by
  intro s hs
  have hmem : s.type ∈ ss.map (·.type) := List.mem_map_of_mem hs
  exact hsub _ (h ▸ hmem)

theorem Customizing.ofTypes (h : Customizing ss) : OfTypes customizationTypes ss :=
  fun s hs => (h s hs).1

theorem OfTypes.stagesOf_eq_nil (h : OfTypes types ss) {type : String}
    (ht : "org.osbuild." ++ type ∉ types) : stagesOf type ss = [] :=
  Manifest.stagesOf_eq_nil fun s hs he => ht (he ▸ h s hs)

end

/-! ## Shapes of pipelines -/

/-- The name of a pipeline, whether its first stage installs packages, and the types of its other
stages. -/
structure Shape where
  name : String
  installs : Bool
  types : List String
deriving DecidableEq

structure Shape.Describes (c : Context) (s : Shape) (p : Pipeline) : Prop where
  name_eq : p.name = s.name
  chain_eq : p.chain = if s.installs then c.chains.chain s.name else []
  stages_eq : ∃ rest, OfTypes s.types rest ∧
    p.stages = (if s.installs then [installStage (c.repositoriesFor s.name)] else []) ++ rest

/-- The shape of a pipeline that installs packages. -/
def tree (name : String) (types : List String) : Shape := ⟨name, true, types⟩

/-- The shape of a pipeline without packages. -/
def plain (name : String) (modules : List String) : Shape := ⟨name, false, moduleTypes modules⟩

/-- Pipelines have some shapes, one by one. -/
def Shaped (c : Context) (shapes : List Shape) (ps : List Pipeline) : Prop :=
  List.Forall₂ (Shape.Describes c) shapes ps

theorem describes_plain {c : Context} {name : String} {modules : List String} {ss : List Stage}
    (h : OfTypes (moduleTypes modules) ss) :
    (plain name modules).Describes c (plainPipeline name ss) := ⟨rfl, rfl, ss, h, rfl⟩

def rootShape : Shape := tree "build" (moduleTypes ["selinux"])

def osShape : Shape := tree "os" (customizationTypes ++ moduleTypes
  ["kernel-cmdline", "systemd", "fstab", "grub2", "zipl", "selinux", "ostree.preptree"])

def imageShape : Shape :=
  plain "image" ["truncate", "sfdisk", "mkfs.ext4", "mkfs.xfs", "mkfs.fat", "copy", "grub2.inst"]

def commitShape : Shape := plain "ostree-commit" ["ostree.init", "ostree.pull", "ostree.commit"]

/-- The types of the stages that work on a commit that was deployed. -/
def deployedTypes : List String :=
  customizationTypes ++ moduleTypes ["systemd", "fstab", "grub2", "zipl"]

def deploymentShape : Shape where
  name := "ostree-deployment"
  installs := false
  types := deployedTypes ++ moduleTypes
    ["ostree.init-fs", "ostree.pull", "ostree.os-init", "ostree.config", "mkdir", "ostree.deploy",
      "ostree.remotes", "ostree.fillvar", "ostree.selinux"]

def anacondaShape : Shape := tree "anaconda-tree" (moduleTypes
  ["buildstamp", "locale", "systemd", "users", "anaconda", "lorax-script", "dracut", "selinux"])

def coreosShape : Shape := tree "coi-tree" (moduleTypes ["locale", "systemd", "dracut", "selinux"])

def servedShape : Shape := tree "container-tree" (moduleTypes
  ["selinux", "ostree.init", "ostree.pull", "nginxconf"])

def efibootShape : Shape := plain "efiboot-tree" ["grub2.iso"]

def isoTreeShape (extra : List String) : Shape :=
  plain "bootiso-tree" (["squashfs", "copy", "discinfo"] ++ extra)

def isoShape : Shape := plain "bootiso" ["xorrisofs", "implantisomd5"]

/-- The shapes that the exports of a disk image may have. -/
def exportShapes : List (List Shape) := [
  [], [plain "qcow2" ["qemu"]], [plain "vpc" ["qemu"]], [plain "vmdk" ["qemu"]],
  [plain "xz" ["xz"]],
  [plain "vmdk" ["qemu"], plain "ovf" ["copy", "ovf"], plain "archive" ["tar"]]]

/-- The shapes that the manifests of a family may have. -/
def shapesOf : Family → List (List Shape)
  | .disk => exportShapes.map ([rootShape, osShape, imageShape] ++ ·)
  | .container => [
    [rootShape, osShape, plain "archive" ["tar"]],
    [rootShape, osShape, plain "container" ["oci-archive"]]]
  | .ostreeCommit => [[rootShape, osShape, commitShape, plain "commit-archive" ["tar"]]]
  | .ostreeContainer => [
    [rootShape, osShape, commitShape, servedShape, plain "container" ["oci-archive"]]]
  | .ostreeDisk => exportShapes.map ([rootShape, deploymentShape, imageShape] ++ ·)
  | .imageInstaller => [
    [rootShape, anacondaShape, osShape, efibootShape, isoTreeShape ["tar", "kickstart"], isoShape]]
  | .liveInstaller => [[rootShape, anacondaShape, efibootShape, isoTreeShape [], isoShape]]
  | .ostreeInstaller => [
    [rootShape, anacondaShape, efibootShape,
      isoTreeShape ["ostree.init", "ostree.pull", "kickstart"], isoShape]]
  | .simplifiedInstaller => [
    [rootShape, deploymentShape, imageShape, plain "xz" ["xz"], coreosShape, efibootShape,
      isoTreeShape ["copy", "inline-files"], isoShape]]

/-! ## Pipelines -/

section

variable {c : Context} {p : Pipeline}

theorem describes_buildPipeline (c : Context) : rootShape.Describes c (buildPipeline c) :=
  ⟨rfl, rfl, _, ofTypes_of_map ["selinux"] rfl (fun _ h => h), rfl⟩

theorem ofTypes_optionalUsers {c : Blueprint.Customizations} {p : Prop} [Decidable p]
    {users : List Stage} (h : if p then [] = users else ∃ s, usersStage c = .ok s ∧ [s] = users) :
    OfTypes (moduleTypes ["users"]) users := by
  split at h
  · exact h ▸ .nil
  · obtain ⟨s, hs, rfl⟩ := h
    obtain ⟨entries, -, rfl⟩ := usersStage_eq_ok.1 hs
    exact ofTypes_of_map ["users"] rfl fun _ h => h

theorem ofTypes_servicesStage? :
    OfTypes (moduleTypes ["systemd"]) (servicesStage? c).toList := by
  intro s hs
  rw [(servicesStage?_eq_some (Option.mem_toList.1 hs)).1]
  decide

theorem ofTypes_bootloaderStages {t : Disk.PartitionTable} {arch : String}
    {mode : Catalog.BootMode} {kernelOptions : Value} {product : String} :
    OfTypes (moduleTypes ["grub2", "zipl"])
      (bootloaderStages t arch mode kernelOptions product) := by
  unfold bootloaderStages
  split
  · exact ofTypes_of_map ["zipl"] rfl (by decide)
  · exact ofTypes_of_map ["grub2"] rfl (by decide)

theorem describes_osPipeline {committed : Bool} (h : osPipeline c committed = .ok p) :
    osShape.Describes c p := by
  obtain ⟨kernelOptions, customizations, -, hc, rfl⟩ := osPipeline_eq_ok.1 h
  have hcustom : OfTypes osShape.types customizations :=
    (customizing_customizationStages hc).ofTypes.mono (by decide)
  have hservices : OfTypes osShape.types (servicesStage? c).toList :=
    ofTypes_servicesStage?.mono (by decide)
  have hcommand : OfTypes osShape.types
      ((c.table.map (commandLineStages · kernelOptions)).getD []) := by
    cases c.table with
    | none => exact .nil
    | some t => exact ofTypes_of_map ["kernel-cmdline"] rfl (by decide)
  have hboot : OfTypes osShape.types ((c.table.map (bootStages c · kernelOptions)).getD []) := by
    cases c.table with
    | none => exact .nil
    | some t =>
      have hfstab : OfTypes osShape.types [fstabStage t] := ofTypes_of_map ["fstab"] rfl (by decide)
      exact hfstab.append (ofTypes_bootloaderStages.mono (by decide))
  have hselinux : OfTypes osShape.types [selinuxStage] :=
    ofTypes_of_map ["selinux"] rfl (by decide)
  have hprepare : OfTypes osShape.types (if committed then
      [stage "ostree.preptree" [("etc_group_members", Value.texts ["wheel", "docker"])]]
      else []) := .ite (ofTypes_of_map ["ostree.preptree"] rfl (by decide)) .nil
  exact ⟨rfl, rfl, _, ((((hcommand.append hcustom).append hservices).append hboot).append
    hselinux).append hprepare, rfl⟩

theorem ofTypes_makeFilesystemStages (filename : Value) (t : Disk.PartitionTable) :
    OfTypes (moduleTypes ["mkfs.ext4", "mkfs.xfs", "mkfs.fat"]) ((placed t).map fun f =>
      makeFilesystemStage filename f.partition f.filesystem) := by
  have htypes : ∀ type : Disk.FilesystemType, "org.osbuild." ++ ("mkfs." ++ type.moduleName) ∈
      moduleTypes ["mkfs.ext4", "mkfs.xfs", "mkfs.fat"] := by
    intro type
    cases type <;> decide
  intro s hs
  obtain ⟨f, -, rfl⟩ := List.mem_map.1 hs
  exact htypes f.filesystem.type

theorem ofTypes_bootloaderInstallStages {filename : Value} {arch : String}
    {mode : Catalog.BootMode} :
    OfTypes (moduleTypes ["grub2.inst"]) (bootloaderInstallStages filename arch mode) :=
  .ite (ofTypes_of_map ["grub2.inst"] rfl (by decide)) .nil

theorem describes_imagePipeline {filename tree : String}
    (h : imagePipeline c filename tree = .ok p) : imageShape.Describes c p := by
  obtain ⟨t, copy, -, hcopy, rfl⟩ := imagePipeline_eq_ok.1 h
  obtain ⟨-, rfl⟩ := copyStage_eq_ok.1 hcopy
  have hfile : OfTypes imageShape.types [truncateStage t filename, partitionStage t filename] :=
    ofTypes_of_map ["truncate", "sfdisk"] rfl (by decide)
  have hmake : OfTypes imageShape.types ((placed t).map fun f =>
      makeFilesystemStage filename f.partition f.filesystem) :=
    (ofTypes_makeFilesystemStages filename t).mono (by decide)
  exact describes_plain (((hfile.append hmake).append
    (ofTypes_of_map ["copy"] rfl (by decide))).append
    (ofTypes_bootloaderInstallStages.mono (by decide)))

theorem describes_commitPipeline {sources : List OstreeSource}
    (h : commitPipeline c = .ok (p, sources)) : commitShape.Describes c p := by
  obtain ⟨ref, -, hp⟩ := commitPipeline_eq_ok.1 h
  simp only at hp
  split at hp
  · obtain ⟨rfl, -⟩ := Prod.mk.inj hp
    exact describes_plain (ofTypes_of_map ["ostree.init", "ostree.commit"] rfl (by decide))
  · obtain ⟨rfl, -⟩ := Prod.mk.inj hp
    exact describes_plain
      (ofTypes_of_map ["ostree.init", "ostree.pull", "ostree.commit"] rfl (by decide))

/-- Between the deployment of a commit and its labels stand customizations and the stages of the
disk. -/
theorem deploymentPipeline_stages (h : deploymentPipeline c = .ok p) :
    ∃ ref remoteUrl kernelOptions between, c.ostreeRef = .ok ref ∧ OfTypes deployedTypes between ∧
      plainPipeline "ostree-deployment" (deployStages ref remoteUrl kernelOptions ++ between ++
        [stage "ostree.selinux" [
          ("deployment", .obj [("osname", .str deploymentName), ("ref", .str ref)])]]) = p := by
  obtain ⟨ref, o, kernelOptions, users, nodes, t, href, -, -, husers, hnodes, -, rfl⟩ :=
    deploymentPipeline_eq_ok.1 h
  have hsub : ∀ type ∈ customizationTypes, type ∈ deployedTypes := by decide
  have hgroups : OfTypes deployedTypes
      (if c.settings.groups.isEmpty then [] else [groupsStage c.settings]) :=
    .ite .nil (customizing_groupsStage.ofTypes.mono hsub)
  have husers : OfTypes deployedTypes users :=
    (customizing_optionalUsers husers).ofTypes.mono hsub
  have hnodes : OfTypes deployedTypes nodes := (customizing_nodeStages hnodes).ofTypes.mono hsub
  have hservices : OfTypes deployedTypes (servicesStage? c).toList :=
    ofTypes_servicesStage?.mono (by decide)
  have hfstab : OfTypes deployedTypes [fstabStage t] := ofTypes_of_map ["fstab"] rfl (by decide)
  have hboot : OfTypes deployedTypes
      (bootloaderStages t c.arch .uefi "" c.target.release.product) :=
    ofTypes_bootloaderStages.mono (by decide)
  refine ⟨ref, if o.contentUrl.truthy then o.contentUrl else o.url, kernelOptions, _, href,
    ((((hgroups.append husers).append hnodes).append hservices).append hfstab).append hboot, ?_⟩
  simp only [List.append_assoc]

theorem describes_deploymentPipeline (h : deploymentPipeline c = .ok p) :
    deploymentShape.Describes c p := by
  obtain ⟨ref, remoteUrl, kernelOptions, between, -, hbetween, rfl⟩ := deploymentPipeline_stages h
  have hdeploy : OfTypes deploymentShape.types (deployStages ref remoteUrl kernelOptions) :=
    ofTypes_of_map ["ostree.init-fs", "ostree.pull", "ostree.os-init", "ostree.config", "mkdir",
      "ostree.deploy", "ostree.remotes", "ostree.fillvar"] rfl (by decide)
  exact ⟨rfl, rfl, _, (hdeploy.append (hbetween.mono (by decide))).append
    (ofTypes_of_map ["ostree.selinux"] rfl (by decide)), rfl⟩

theorem describes_anacondaPipeline (c : Context) (live : Bool) :
    anacondaShape.Describes c (anacondaPipeline c live) := by
  refine ⟨rfl, rfl, _, ?_, rfl⟩
  cases live with
  | true =>
    exact ofTypes_of_map ["buildstamp", "locale", "systemd", "lorax-script", "dracut", "selinux"]
      rfl (by decide)
  | false =>
    exact ofTypes_of_map
      ["buildstamp", "locale", "users", "anaconda", "lorax-script", "dracut", "selinux"]
      rfl (by decide)

theorem describes_coreosPipeline (c : Context) : coreosShape.Describes c (coreosPipeline c) :=
  ⟨rfl, rfl, _, ofTypes_of_map ["locale", "systemd", "dracut", "selinux"] rfl (by decide), rfl⟩

theorem describes_efibootPipeline (c : Context) (kernelOptions : List String) :
    efibootShape.Describes c (efibootPipeline c kernelOptions) :=
  describes_plain (ofTypes_of_map ["grub2.iso"] rfl (by decide))

theorem describes_isoTreePipeline {extra : List Stage} (compressed : String) (names : List String)
    (h : OfTypes (moduleTypes names) extra) :
    (isoTreeShape names).Describes c (isoTreePipeline c compressed extra) := by
  refine describes_plain (OfTypes.append ?_ (h.mono ?_))
  · refine ofTypes_of_map ["squashfs", "copy", "discinfo"] rfl fun type htype => ?_
    rw [moduleTypes, List.map_append]
    exact List.mem_append_left _ htype
  · intro type htype
    rw [moduleTypes, List.map_append]
    exact List.mem_append_right _ htype

theorem ofTypes_simplifiedExtraStages (c : Context) (imageFile : String) :
    OfTypes (moduleTypes ["copy", "inline-files"]) (simplifiedExtraStages c imageFile) := by
  unfold simplifiedExtraStages
  split
  · exact ofTypes_of_map ["copy", "inline-files"] rfl (by decide)
  · exact ofTypes_of_map ["copy"] rfl (by decide)

theorem describes_isoPipeline (c : Context) : isoShape.Describes c (isoPipeline c) :=
  describes_plain (ofTypes_of_map ["xorrisofs", "implantisomd5"] rfl (by decide))

theorem shaped_exportPipelines (c : Context) (source file : String) :
    ∃ shapes ∈ exportShapes, Shaped c shapes (exportPipelines c source file) := by
  have hqemu : ∀ name filename format, (plain name ["qemu"]).Describes c
      (plainPipeline name [qemuStage source file filename format]) := fun _ _ _ =>
    describes_plain (ofTypes_of_map ["qemu"] rfl (by decide))
  have hxz : (plain "xz" ["xz"]).Describes c
      (plainPipeline "xz" [xzStage source file c.filename]) :=
    describes_plain (ofTypes_of_map ["xz"] rfl (by decide))
  unfold exportPipelines
  simp only
  split_ifs with hformat
  · simp only [Bool.or_eq_true, beq_iff_eq] at hformat
    have hone : [plain c.target.imageType.exportFormat ["qemu"]] ∈ exportShapes := by
      rcases hformat with (hf | hf) | hf <;> rw [hf] <;> decide
    exact ⟨_, hone, .cons (hqemu _ _ _) .nil⟩
  · exact ⟨[plain "xz" ["xz"]], by decide, .cons hxz .nil⟩
  · exact ⟨[plain "vmdk" ["qemu"], plain "ovf" ["copy", "ovf"], plain "archive" ["tar"]],
      by decide, .cons (hqemu _ _ _) (.cons
        (describes_plain (ofTypes_of_map ["copy", "ovf"] rfl (by decide))) (.cons
        (describes_plain (ofTypes_of_map ["tar"] rfl (by decide))) .nil))⟩
  · exact ⟨[], by decide, .nil⟩

end

/-! ## Manifests -/

section

variable {c : Context} {shapes : List Shape} {ps : List Pipeline} {m : Manifest}

theorem Shaped.names_eq (h : Shaped c shapes ps) : ps.map (·.name) = shapes.map (·.name) := by
  induction h with
  | nil => rfl
  | cons hp _ ih => rw [List.map_cons, List.map_cons, ih, hp.name_eq]

theorem Shaped.exists_shape (h : Shaped c shapes ps) {p : Pipeline} (hp : p ∈ ps) :
    ∃ s ∈ shapes, s.Describes c p := by
  induction h with
  | nil => cases hp
  | cons hq _ ih =>
    rcases List.mem_cons.1 hp with rfl | hp
    · exact ⟨_, List.mem_cons_self, hq⟩
    · obtain ⟨s, hs, hp⟩ := ih hp
      exact ⟨s, List.mem_cons_of_mem _ hs, hp⟩

theorem Shaped.exists_pipeline (h : Shaped c shapes ps) {s : Shape} (hs : s ∈ shapes) :
    ∃ p ∈ ps, s.Describes c p := by
  induction h with
  | nil => cases hs
  | cons hq _ ih =>
    rcases List.mem_cons.1 hs with rfl | hs
    · exact ⟨_, List.mem_cons_self, hq⟩
    · obtain ⟨p, hp, hs⟩ := ih hs
      exact ⟨p, List.mem_cons_of_mem _ hp, hs⟩

theorem nodup_shapesOf (f : Family) : ∀ shapes ∈ shapesOf f, (shapes.map (·.name)).Nodup := by
  cases f <;> decide

theorem Shaped.nodup_names {f : Family} (h : Shaped c shapes m.pipelines)
    (hshapes : shapes ∈ shapesOf f) : m.pipelineNames.Nodup := by
  rw [pipelineNames, h.names_eq]
  exact nodup_shapesOf f shapes hshapes

/-- What is assembled has one of the shapes of its family. -/
theorem shaped_assemble (h : assemble c = .ok m) :
    ∃ shapes ∈ shapesOf c.target.family, Shaped c shapes m.pipelines := by
  have hroot := describes_buildPipeline c
  have hefi := describes_efibootPipeline c
  have hiso := describes_isoPipeline c
  have hexport : ∀ {a b : Shape} {p q : Pipeline} {file : String},
      a.Describes c p → b.Describes c q →
      ∃ shapes ∈ exportShapes.map ([rootShape, a, b] ++ ·),
        Shaped c shapes ([buildPipeline c, p, q] ++ exportPipelines c "image" file) := by
    intro a b p q file ha hb
    obtain ⟨shapes, hshapes, hall⟩ := shaped_exportPipelines c "image" file
    exact ⟨_, List.mem_map_of_mem hshapes, .cons hroot (.cons ha (.cons hb hall))⟩
  unfold assemble at h
  split at h <;> rename_i hf <;> rw [hf]
  case h_1 =>
    obtain ⟨os, image, hos, himage, rfl⟩ := diskManifest_eq_ok.1 h
    exact hexport (describes_osPipeline hos) (describes_imagePipeline himage)
  case h_2 =>
    obtain ⟨os, hos, rfl⟩ := containerManifest_eq_ok.1 h
    split_ifs
    · exact ⟨_, List.mem_cons_self, .cons hroot (.cons (describes_osPipeline hos) (.cons
        (describes_plain (ofTypes_of_map ["tar"] rfl (by decide))) .nil))⟩
    · exact ⟨_, List.mem_cons_of_mem _ List.mem_cons_self, .cons hroot (.cons
        (describes_osPipeline hos) (.cons
        (describes_plain (ofTypes_of_map ["oci-archive"] rfl (by decide))) .nil))⟩
  case h_3 =>
    obtain ⟨commit, sources, os, hc, hos, rfl⟩ := commitManifest_eq_ok.1 h
    exact ⟨_, List.mem_cons_self, .cons hroot (.cons (describes_osPipeline hos) (.cons
      (describes_commitPipeline hc) (.cons
      (describes_plain (ofTypes_of_map ["tar"] rfl (by decide))) .nil)))⟩
  case h_4 =>
    obtain ⟨commit, sources, ref, os, hc, -, hos, rfl⟩ := commitContainerManifest_eq_ok.1 h
    have hserved : servedShape.Describes c (c.pipeline "container-tree" [
        installStage (c.repositoriesFor "container-tree"), selinuxStage,
        initStage servedRepository, pullFromStage servedRepository "ostree-commit" ref,
        stage "nginxconf" [("path", "/etc/nginx.conf"), ("config", .obj [("listen", "8080")])]]) :=
      ⟨rfl, rfl, _, ofTypes_of_map ["selinux", "ostree.init", "ostree.pull", "nginxconf"] rfl
        (by decide), rfl⟩
    exact ⟨_, List.mem_cons_self, .cons hroot (.cons (describes_osPipeline hos) (.cons
      (describes_commitPipeline hc) (.cons hserved (.cons
      (describes_plain (ofTypes_of_map ["oci-archive"] rfl (by decide))) .nil))))⟩
  case h_5 =>
    obtain ⟨deployment, image, source, hd, himage, -, rfl⟩ := deployedDiskManifest_eq_ok.1 h
    exact hexport (describes_deploymentPipeline hd) (describes_imagePipeline himage)
  case h_6 =>
    obtain ⟨kickstart, os, hk, hos, rfl⟩ := imageInstallerManifest_eq_ok.1 h
    obtain ⟨users, -, rfl⟩ := kickstartStage_eq_ok.1 hk
    exact ⟨_, List.mem_cons_self, .cons hroot (.cons (describes_anacondaPipeline c false) (.cons
      (describes_osPipeline hos) (.cons (hefi _) (.cons (describes_isoTreePipeline _ _
      (ofTypes_of_map ["tar", "kickstart"] rfl (by decide))) (.cons hiso .nil)))))⟩
  case h_7 =>
    obtain rfl := Except.ok.inj h
    exact ⟨_, List.mem_cons_self, .cons hroot (.cons (describes_anacondaPipeline c true) (.cons
      (hefi _) (.cons (describes_isoTreePipeline _ _ .nil) (.cons hiso .nil))))⟩
  case h_8 =>
    obtain ⟨ref, kickstart, source, -, hk, -, rfl⟩ := commitInstallerManifest_eq_ok.1 h
    obtain ⟨users, -, rfl⟩ := kickstartStage_eq_ok.1 hk
    exact ⟨_, List.mem_cons_self, .cons hroot (.cons (describes_anacondaPipeline c false) (.cons
      (hefi _) (.cons (describes_isoTreePipeline _ _
      (ofTypes_of_map ["ostree.init", "ostree.pull", "kickstart"] rfl (by decide)))
      (.cons hiso .nil))))⟩
  case h_9 =>
    obtain ⟨kernelOptions, deployment, image, source, -, hd, himage, -, rfl⟩ :=
      simplifiedInstallerManifest_eq_ok.1 h
    exact ⟨_, List.mem_cons_self, .cons hroot (.cons (describes_deploymentPipeline hd) (.cons
      (describes_imagePipeline himage) (.cons
      (describes_plain (ofTypes_of_map ["xz"] rfl (by decide))) (.cons
      (describes_coreosPipeline c) (.cons (hefi _) (.cons (describes_isoTreePipeline _ _
      (ofTypes_simplifiedExtraStages c _))
      (.cons hiso .nil)))))))⟩

end

end Imagewright.Manifest
