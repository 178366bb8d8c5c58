import Imagewright.Proofs.Manifest.Packages

/-!
# What is ignored is warned of

The packages of a blueprint and the size of an image are used, or there is a warning. The validation
decides about the warnings before anything is assembled, so its classes of families have to match
the pipelines that families have.

## Main definitions

* `Manifest.packagesPipeline`: the pipeline that the packages of a blueprint go to.
* `Manifest.Accounted`: packages and size are used, or there is a warning.

## Main statements

* `Manifest.size_planTable`: a size that is asked for is rounded up, and no more.
* `Manifest.accounted_ofRequest`: nothing of a request is dropped silently.
-/
namespace Imagewright.Manifest

open Catalog (Family Target)
open PackageSetChains (bindSet)
open Request (Options Warning)

/-- The pipeline that the packages of a blueprint go to. -/
def packagesPipeline (f : Family) : String := if f = .liveInstaller then "anaconda-tree" else "os"

/-- The packages of a blueprint are the last set of their pipeline. -/
def InstallsSpecs (t : Target) (b : Blueprint) (m : Manifest) : Prop :=
  ∃ p s, m.pipeline? (packagesPipeline t.family) = some p ∧ p.chain.getLast? = some s ∧
    s.install = b.specs

/-- The image file is of the size that is asked for, in whole mebibytes. -/
def HasSize (o : Options) (m : Manifest) : Prop :=
  ∃ (p : Pipeline) (s : Stage) (size : Int), m.pipeline? "image" = some p ∧
    stagesOf "truncate" p.stages = [s] ∧ s.option? "size" = some (.str (toString size)) ∧
    Disk.mib ∣ size ∧ o.size ≤ size ∧ size < o.size + Disk.mib

/-- What is asked for is used, or there is a warning. -/
structure Accounted (t : Target) (b : Blueprint) (o : Options) (m : Manifest) (ws : List Warning) :
    Prop where
  packages : b.specs ≠ [] → .packages t.name ∈ ws ∨ InstallsSpecs t b m
  size : o.size ≠ 0 → .size t.name ∈ ws ∨ HasSize o m
  /-- There is a warning only where the pipeline is missing. -/
  warned : ∀ w ∈ ws, w = .packages t.name ∧ m.pipeline? (packagesPipeline t.family) = none ∨
    w = .size t.name ∧ m.pipeline? "image" = none

/-! ## Pipelines by name -/

section

variable {c : Context} {m : Manifest} {p : Pipeline} {name : String}

theorem pipeline?_eq_none_iff : m.pipeline? name = none ↔ name ∉ m.pipelineNames := by
  simp [pipeline?, pipelineNames]

theorem pipeline?_eq_some_of_mem (h : m.pipelineNames.Nodup) (hp : p ∈ m.pipelines)
    (hname : p.name = name) : m.pipeline? name = some p := by
  cases hfound : m.pipeline? name with
  | none =>
    rw [pipeline?_eq_none_iff] at hfound
    exact absurd (hname ▸ List.mem_map_of_mem hp) hfound
  | some q =>
    have hq : q.name = name := by simpa using List.find?_some hfound
    rw [List.inj_on_of_nodup_map h (List.mem_of_find?_eq_some hfound) hp (hq.trans hname.symm)]

theorem mem_names_iff (f : Family) : ∀ shapes ∈ shapesOf f,
    ("image" ∈ shapes.map (·.name) ↔ f.partitioned = true) ∧
      (packagesPipeline f ∈ shapes.map (·.name) ↔ f.takesCommit = false) := by
  cases f <;> decide

end

/-! ## Packages -/

section

variable {c : Context} {m : Manifest}

theorem getLast?_setsOf {t : Target} {b : Blueprint} {name : String}
    (h : t.family.blueprintPipeline? = some name) :
    (setsOf t b name).getLast? = some { install := b.specs } := by
  rw [setsOf, if_pos h, List.getLast?_append]
  rfl

/-- The pipeline that the packages go to installs packages. -/
theorem installs_packagesPipeline (f : Family) : f.takesCommit = false →
    f.blueprintPipeline? = some (packagesPipeline f) ∧ ∀ shapes ∈ shapesOf f, ∀ s ∈ shapes,
      s.name = packagesPipeline f → s.installs = true := by
  cases f <;> decide

theorem installsSpecs_assemble
    (hc : c.chains = packageChains c.target c.blueprint c.repositories)
    (hf : c.target.family.takesCommit = false) (h : assemble c = .ok m) :
    InstallsSpecs c.target c.blueprint m := by
  obtain ⟨shapes, hshapes, hshaped⟩ := shaped_assemble h
  have hnames : m.pipelineNames.Nodup := hshaped.nodup_names hshapes
  obtain ⟨shape, hshape, hname⟩ := List.mem_map.1 ((mem_names_iff _ _ hshapes).2.2 hf)
  obtain ⟨p, hp, hd⟩ := hshaped.exists_pipeline hshape
  obtain ⟨hblueprint, hinstalls⟩ := installs_packagesPipeline _ hf
  have hlast : p.chain.getLast? = some (bindSet c.repositories
      (packagesPipeline c.target.family) { install := c.blueprint.specs }) := by
    rw [hd.chain_eq, if_pos (hinstalls shapes hshapes shape hshape hname), hname, hc,
      chain_packageChains, List.getLast?_map, getLast?_setsOf hblueprint]
    rfl
  exact ⟨p, _, pipeline?_eq_some_of_mem hnames hp (hd.name_eq.trans hname), hlast, rfl⟩

end

/-! ## Size -/

section

variable {c : Context} {m : Manifest}

theorem mib_dvd_alignUp (n : Int) :
    Disk.mib ∣ Disk.alignUp n ∧ n ≤ Disk.alignUp n ∧ Disk.alignUp n < n + Disk.mib := by
  unfold Disk.alignUp Disk.mib
  omega

/-- A size that is asked for is rounded up, and no more. -/
theorem size_planTable {σ : Type} [Random.Source σ] {source : σ} {t : Target} {b : Blueprint}
    {o : Options} {table : Disk.PartitionTable} (ho : o.size ≠ 0)
    (h : planTable t b o source = .ok table) : table.size = Disk.alignUp o.size := by
  obtain ⟨base, -, hplan⟩ := planTable_eq_ok.1 h
  obtain ⟨sized, ps, laid, -, -, hlaid, rfl⟩ := Disk.plan_eq_ok.1 hplan
  obtain ⟨hstrict, hlaid⟩ := Disk.layOut_eq_ok.1 hlaid
  have hsize : laid.size = max (Disk.alignUp (t.size o.size)) (Disk.neededSize base.label ps) := by
    rw [← hlaid]
  have halign : Disk.alignUp (t.size o.size) = Disk.alignUp o.size :=
    alignUp_size (by exact_mod_cast ho)
  rw [Disk.size_identify, hsize, Int.max_eq_left (hstrict (by simpa using ho)), halign]

theorem exists_imagePipeline (hp : c.target.family.partitioned = true) (h : assemble c = .ok m) :
    ∃ image filename tree, m.pipeline? "image" = some image ∧
      imagePipeline c filename tree = .ok image := by
  obtain ⟨shapes, hshapes, hshaped⟩ := shaped_assemble h
  have hfound : ∀ {image : Pipeline} {filename tree : String}, image ∈ m.pipelines →
      imagePipeline c filename tree = .ok image → m.pipeline? "image" = some image := by
    intro image filename tree hmem himage
    exact pipeline?_eq_some_of_mem (hshaped.nodup_names hshapes) hmem
      (imagePipeline_builtAs himage).1.name_eq
  unfold assemble at h
  split at h <;> rename_i hf
  case h_1 =>
    obtain ⟨os, image, -, himage, rfl⟩ := diskManifest_eq_ok.1 h
    exact ⟨image, _, _, hfound (by simp) himage, himage⟩
  case h_5 =>
    obtain ⟨deployment, image, source, -, himage, -, rfl⟩ := deployedDiskManifest_eq_ok.1 h
    exact ⟨image, _, _, hfound (by simp) himage, himage⟩
  case h_9 =>
    obtain ⟨kernelOptions, deployment, image, source, -, -, himage, -, rfl⟩ :=
      simplifiedInstallerManifest_eq_ok.1 h
    exact ⟨image, _, _, hfound (by simp) himage, himage⟩
  all_goals
    rw [hf] at hp
    cases hp

theorem hasSize_assemble {table : Disk.PartitionTable} {o : Options}
    (hp : c.target.family.partitioned = true) (ht : c.table = some table)
    (hsize : table.size = Disk.alignUp o.size) (h : assemble c = .ok m) : HasSize o m := by
  obtain ⟨image, filename, tree, hfound, himage⟩ := exists_imagePipeline hp h
  have htruncate := truncates_imageStages (imageStages_of_imagePipeline ht himage)
  exact ⟨image, _, table.size, hfound, htruncate, rfl, hsize ▸ mib_dvd_alignUp o.size⟩

end

/-! ## Requests -/

section

variable {t : Target} {b : Blueprint} {o : Options} {m : Manifest} {ws : List Warning}

theorem mem_warnings {w : Warning} : w ∈ Request.warnings t.imageType b o ↔
    (t.family.takesCommit = true ∧ b.specs ≠ []) ∧ w = .packages t.name ∨
      (o.size ≠ 0 ∧ t.family.partitioned = false) ∧ w = .size t.name := by
  simp [Request.warnings, Target.family, Target.name]

/-- The packages and the size that a request asks for are used, or there is a warning, which is
given only if there is no pipeline to use them. -/
theorem accounted_ofRequest {repositories : List Repository} {seed : Int}
    (h : ofRequest t b o repositories seed = .ok (m, ws)) : Accounted t b o m ws := by
  obtain ⟨hvalid, hbuild⟩ := ofRequest_eq_ok.1 h
  obtain ⟨-, rfl⟩ := Request.validate_eq_ok.1 hvalid
  obtain ⟨table, htable, hassemble⟩ := build_eq_ok.1 hbuild
  obtain ⟨shapes, hshapes, hshaped⟩ := shaped_assemble hassemble
  obtain ⟨himage, hpackages⟩ := mem_names_iff _ _ hshapes
  rw [← hshaped.names_eq] at himage hpackages
  refine ⟨fun hspecs => ?_, fun hsize => ?_, fun w hw => ?_⟩
  · cases hf : t.family.takesCommit with
    | true => exact .inl (mem_warnings.2 (.inl ⟨⟨hf, hspecs⟩, rfl⟩))
    | false =>
      exact .inr (installsSpecs_assemble (c := contextOf t b o repositories table) rfl hf hassemble)
  · cases hp : t.family.partitioned with
    | true =>
      rw [if_pos hp] at htable
      obtain ⟨planned, hplan, rfl⟩ := htable
      exact .inr (hasSize_assemble (c := contextOf t b o repositories (some planned)) hp rfl
        (size_planTable hsize hplan) hassemble)
    | false => exact .inl (mem_warnings.2 (.inr ⟨⟨hsize, hp⟩, rfl⟩))
  · -- the classes of families that are warned are the families without the pipelines
    rcases mem_warnings.1 hw with ⟨⟨hf, -⟩, rfl⟩ | ⟨⟨-, hp⟩, rfl⟩
    · refine .inl ⟨rfl, pipeline?_eq_none_iff.2 fun hname => ?_⟩
      exact absurd (hf.symm.trans (hpackages.1 hname)) (by decide)
    · refine .inr ⟨rfl, pipeline?_eq_none_iff.2 fun hname => ?_⟩
      exact absurd (hp.symm.trans (himage.1 hname)) (by decide)

theorem accounted_ofRequest_qcow2 :
    let b : Blueprint := { packages := [⟨⟨"vim", by decide⟩, ""⟩] }
    ∃ t m, t.family = .disk ∧ ofRequest t b { size := 6000000000 } [] 7 = .ok (m, []) ∧
      InstallsSpecs t b m ∧ HasSize { size := 6000000000 } m := by
  intro b
  obtain ⟨t, m, -, hf, h⟩ := ofRequest_qcow2 []
  have haccounted := accounted_ofRequest h
  refine ⟨t, m, hf, h, ?_, ?_⟩
  · exact (haccounted.packages (by simp [Blueprint.specs])).resolve_left List.not_mem_nil
  · exact (haccounted.size (by decide)).resolve_left List.not_mem_nil

end

end Imagewright.Manifest
