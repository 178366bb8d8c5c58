import Imagewright.Proofs.Manifest.Packages
import Imagewright.Proofs.Value.Equality

/-!
# Units of an image

An image type enables some units, and a blueprint enables, disables and masks others. Both are put
together without a conflict: what the image type enables stays enabled, and what the blueprint
disables is enabled by neither of them.

## Main definitions

* `Manifest.UnitsSettled`: the units of an image type and of a blueprint, put together.
* `Manifest.UnitsWritten`: how units are written.

## Main statements

* `Manifest.unitsSettled`: units that pass the check of a request are put together without a
  conflict.
* `Manifest.isTree_of_mem`: which pipelines make the tree of an operating system.
* `Manifest.units_ofRequest`: the units in the tree of a request.
-/
namespace Imagewright.Manifest

open Blueprint (ServiceSettings)
open Catalog (Family Target)
open Request (Options Warning)

/-! ## Units -/

/-- The units that an image type enables and those of a blueprint, put together. -/
structure UnitsSettled (defaults : List Value) (s : ServiceSettings)
    (enabled disabled masked : List Value) : Prop where
  /-- Behind the units of the image type stand the others that the blueprint enables. -/
  enabled_eq : ∃ added, enabled = defaults ++ added ∧
    FirstsOf (s.enabled.filter (!·.isIn defaults)) added
  once : enabled.Pairwise fun earlier later => later.same earlier = false
  disabled_eq : disabled = s.disabled.filter (!·.isIn defaults)
  apart : ∀ v ∈ enabled, ∀ w ∈ disabled, v.same w = false ∧ w.same v = false
  masked_eq : masked = s.masked

/-- Stages list units. There is one stage with the lists that are not empty, or none at all. -/
structure UnitsWritten (enabled disabled masked : List Value) (ss : List Stage) : Prop where
  present : ss ≠ [] ↔ enabled ≠ [] ∨ disabled ≠ [] ∨ masked ≠ []
  one : ss.length ≤ 1
  options : ∀ s ∈ ss,
    s.option? "enabled_services" = (if enabled = [] then none else some (.list enabled)) ∧
    s.option? "disabled_services" = (if disabled = [] then none else some (.list disabled)) ∧
    s.option? "masked_services" = (if masked = [] then none else some (.list masked))

theorem unitsWritten_unitStage? (enabled disabled masked : List Value) :
    UnitsWritten enabled disabled masked (unitStage? enabled disabled masked).toList := by
  cases enabled <;> cases disabled <;> cases masked <;>
    constructor <;> simp [unitStage?, listField, stage, Stage.option?, Assoc.get?]

theorem isIn_eq_false {v : Value} {vs : List Value} :
    v.isIn vs = false ↔ ∀ w ∈ vs, v.same w = false := by
  simp [Value.isIn]

theorem same_eq_false_symm {v w : Value} (hw : w.isAtomic = true) (h : v.same w = false) :
    w.same v = false := by
  cases hwv : w.same v
  · rfl
  · rw [Value.same_symm hw hwv] at h
    cases h

section

variable {defaults : List String} {s : ServiceSettings}

/-- Units that can be compared are put together without a conflict, if none is both enabled and
disabled. -/
theorem unitsSettled (hd : defaults.Nodup)
    (hatomic : ∀ v ∈ s.enabled ++ s.disabled, v.isAtomic = true)
    (hboth : ∀ v ∈ s.enabled, v.isIn s.disabled = false) :
    let enabled := defaults.map .str ++ distinctFrom (defaults.map .str) s.enabled
    UnitsSettled (defaults.map .str) s enabled (s.disabled.filter (!·.isIn enabled)) s.masked := by
  intro enabled
  have hadded : ∀ v ∈ distinctFrom (defaults.map .str) s.enabled, ∀ w ∈ s.disabled,
      v.same w = false := fun v hv =>
    isIn_eq_false.1 (hboth v (distinctFrom_sublist.subset hv))
  have hcomparable : ∀ v ∈ enabled, v.isAtomic = true := by
    intro v hv
    rcases List.mem_append.1 hv with hv | hv
    · obtain ⟨_, -, rfl⟩ := List.mem_map.1 hv
      rfl
    · exact hatomic v (List.mem_append_left _ (distinctFrom_sublist.subset hv))
  refine ⟨⟨_, rfl, distinctFrom_eq ▸ firstsOf_distinct _⟩, ?_, ?_, fun v hv w hw => ?_, rfl⟩
  · refine List.pairwise_append.2 ⟨?_, pairwise_distinctFrom, fun v hv w hw =>
      isIn_eq_false.1 (isIn_of_mem_distinctFrom hw) v hv⟩
    exact List.pairwise_map.2 (hd.imp fun hne => beq_false_of_ne hne.symm)
  · refine List.filter_congr fun w hw => ?_
    have hnew : w.isIn (distinctFrom (defaults.map .str) s.enabled) = false :=
      isIn_eq_false.2 fun v hv => same_eq_false_symm
        (hatomic w (List.mem_append_right _ hw)) (hadded v hv w hw)
    rw [isIn_append, hnew, Bool.or_false]
  · have hwv : w.same v = false := by
      have hkept := (List.mem_filter.1 hw).2
      rw [Bool.not_eq_true', isIn_eq_false] at hkept
      exact hkept v hv
    exact ⟨same_eq_false_symm (hcomparable v hv) hwv, hwv⟩

/-- A blueprint that says nothing about units is one with empty lists. -/
theorem servicesStage?_eq (c : Context) :
    let defaults : List Value := c.target.imageType.enabledServices.map .str
    let s := c.settings.services.getD {}
    let enabled := defaults ++ distinctFrom defaults s.enabled
    servicesStage? c = unitStage? enabled (s.disabled.filter (!·.isIn enabled)) s.masked := by
  unfold servicesStage?
  cases c.settings.services with
  | none => simp [distinctFrom]
  | some s => rfl

theorem unitsSettled_servicesStage? {c : Context}
    (hd : c.target.imageType.enabledServices.Nodup)
    (hchecked : Request.checkServices c.settings = .ok ()) :
    ∃ enabled disabled masked,
      UnitsSettled (c.target.imageType.enabledServices.map .str) (c.settings.services.getD {})
        enabled disabled masked ∧
      UnitsWritten enabled disabled masked (servicesStage? c).toList := by
  obtain ⟨hatomic, hboth⟩ := Request.checkServices_eq_ok.1 hchecked
  rw [servicesStage?_eq]
  exact ⟨_, _, _, unitsSettled hd hatomic hboth, unitsWritten_unitStage? ..⟩

end

/-! ## The tree of an operating system -/

/-- The names of the pipelines that make the tree of an operating system. -/
def treeNames : List String := ["os", "ostree-deployment"]

section

variable {c : Context} {m : Manifest} {p q : Pipeline}

/-- A pipeline makes the tree of an operating system, from packages or from a commit. -/
def IsTree (c : Context) (p : Pipeline) : Prop :=
  (∃ committed, osPipeline c committed = .ok p) ∨ deploymentPipeline c = .ok p

theorem IsTree.name_mem (h : IsTree c p) : p.name ∈ treeNames := by
  rcases h with ⟨committed, hos⟩ | hd
  · rw [(osPipeline_builtAs hos).name_eq]
    decide
  · obtain ⟨ref, -, hbuilt⟩ := deploymentPipeline_builtAs hd
    rw [hbuilt.name_eq]
    decide

/-- Only the units of the image type and the blueprint are among the units of a tree. -/
theorem IsTree.stagesOf_eq (h : IsTree c p) :
    stagesOf "systemd" p.stages = (servicesStage? c).toList := by
  have hservices : stagesOf "systemd" (servicesStage? c).toList = (servicesStage? c).toList :=
    List.filter_eq_self.2 fun s hs =>
      beq_iff_eq.2 (servicesStage?_eq_some (Option.mem_toList.1 hs)).1
  rcases h with ⟨committed, hos⟩ | hd
  · obtain ⟨kernelOptions, customizations, -, hc, rfl⟩ := osPipeline_eq_ok.1 hos
    have hcommand : stagesOf "systemd"
        ((c.table.map (commandLineStages · kernelOptions)).getD []) = [] := by
      cases c.table <;> rfl
    have hboot : stagesOf "systemd"
        ((c.table.map (bootStages c · kernelOptions)).getD []) = [] := by
      cases c.table with
      | none => rfl
      | some t => exact stagesOf_bootloaderStages (by decide) (by decide)
    have hprepare : stagesOf "systemd" (if committed then
        [stage "ostree.preptree" [("etc_group_members", Value.texts ["wheel", "docker"])]]
        else []) = [] := by
      cases committed <;> rfl
    have hcustom : stagesOf "systemd" customizations = [] :=
      (customizing_customizationStages hc).stagesOf_eq (by decide)
    have hinstall : stagesOf "systemd" [installStage (c.repositoriesFor "os")] = [] := rfl
    have hselinux : stagesOf "systemd" [selinuxStage] = [] := rfl
    simp only [Context.pipeline, Context.plainPipeline, stagesOf_append, hcustom, hservices,
      hcommand, hboot, hprepare, hinstall, hselinux, List.nil_append, List.append_nil]
  · obtain ⟨ref, o, kernelOptions, users, nodes, t, -, -, -, husers, hnodes, -, rfl⟩ :=
      deploymentPipeline_eq_ok.1 hd
    have hdeploy : ∀ url, stagesOf "systemd" (deployStages ref url kernelOptions) = [] :=
      fun _ => rfl
    have hgroups : stagesOf "systemd"
        (if c.settings.groups.isEmpty then [] else [groupsStage c.settings]) = [] := by
      split <;> rfl
    have husers : stagesOf "systemd" users = [] :=
      (customizing_optionalUsers husers).stagesOf_eq (by decide)
    have hnodes : stagesOf "systemd" nodes = [] :=
      (customizing_nodeStages hnodes).stagesOf_eq (by decide)
    have hfstab : stagesOf "systemd" [fstabStage t] = [] := rfl
    have hloader : stagesOf "systemd"
        (bootloaderStages t c.arch .uefi "" c.target.release.product) = [] :=
      stagesOf_bootloaderStages (by decide) (by decide)
    have hlabels : ∀ options, stagesOf "systemd" [stage "ostree.selinux" options] = [] :=
      fun _ => rfl
    simp only [Context.plainPipeline, stagesOf_append, hdeploy, hgroups, husers, hnodes, hservices,
      hfstab, hloader, hlabels, List.nil_append, List.append_nil]

theorem exists_isTree (h : assemble c = .ok m) (hlive : c.target.family ≠ .liveInstaller)
    (hostree : c.target.family ≠ .ostreeInstaller) : ∃ p ∈ m.pipelines, IsTree c p := by
  unfold assemble at h
  split at h
  case h_1 =>
    obtain ⟨os, image, hos, -, rfl⟩ := diskManifest_eq_ok.1 h
    exact ⟨os, by simp, .inl ⟨false, hos⟩⟩
  case h_2 =>
    obtain ⟨os, hos, rfl⟩ := containerManifest_eq_ok.1 h
    exact ⟨os, by simp, .inl ⟨false, hos⟩⟩
  case h_3 =>
    obtain ⟨commit, sources, os, -, hos, rfl⟩ := commitManifest_eq_ok.1 h
    exact ⟨os, by simp, .inl ⟨true, hos⟩⟩
  case h_4 =>
    obtain ⟨commit, sources, ref, os, -, -, hos, rfl⟩ := commitContainerManifest_eq_ok.1 h
    exact ⟨os, by simp, .inl ⟨true, hos⟩⟩
  case h_5 =>
    obtain ⟨deployment, image, source, hd, -, -, rfl⟩ := deployedDiskManifest_eq_ok.1 h
    exact ⟨deployment, by simp, .inr hd⟩
  case h_6 =>
    obtain ⟨kickstart, os, -, hos, rfl⟩ := imageInstallerManifest_eq_ok.1 h
    exact ⟨os, by simp, .inl ⟨false, hos⟩⟩
  case h_7 hf => exact absurd hf hlive
  case h_8 hf => exact absurd hf hostree
  case h_9 =>
    obtain ⟨_, deployment, image, source, -, hd, -, -, rfl⟩ :=
      simplifiedInstallerManifest_eq_ok.1 h
    exact ⟨deployment, by simp, .inr hd⟩

theorem treeNames_shapesOf (f : Family) : ∀ shapes ∈ shapesOf f,
    ((∃ n ∈ shapes.map (·.name), n ∈ treeNames) ↔ f ≠ .liveInstaller ∧ f ≠ .ostreeInstaller) ∧
      ∀ n ∈ shapes.map (·.name), ∀ n' ∈ shapes.map (·.name),
        n ∈ treeNames → n' ∈ treeNames → n = n' := by
  cases f <;> decide

/-- Only two families of installers have no tree of an operating system. -/
theorem exists_treeName_iff (h : assemble c = .ok m) :
    (∃ p ∈ m.pipelines, p.name ∈ treeNames) ↔
      c.target.family ≠ .liveInstaller ∧ c.target.family ≠ .ostreeInstaller := by
  obtain ⟨shapes, hshapes, hshaped⟩ := shaped_assemble h
  rw [← (treeNames_shapesOf _ _ hshapes).1, ← hshaped.names_eq]
  simp only [List.mem_map, exists_exists_and_eq_and]

/-- The pipelines that are named for the tree of an operating system make it. -/
theorem isTree_of_mem (h : assemble c = .ok m) (hp : p ∈ m.pipelines)
    (hname : p.name ∈ treeNames) : IsTree c p := by
  obtain ⟨shapes, hshapes, hshaped⟩ := shaped_assemble h
  obtain ⟨hlive, hostree⟩ := (exists_treeName_iff h).1 ⟨p, hp, hname⟩
  obtain ⟨q, hq, htree⟩ := exists_isTree h hlive hostree
  have hone := (treeNames_shapesOf _ _ hshapes).2
  rw [← hshaped.names_eq] at hone
  have hsame : p.name = q.name :=
    hone _ (List.mem_map_of_mem hp) _ (List.mem_map_of_mem hq) hname htree.name_mem
  rw [List.inj_on_of_nodup_map (hshaped.nodup_names hshapes) hp hq hsame]
  exact htree

end

/-! ## Requests -/

theorem nodup_enabledServices {t : Target} (h : Catalog.Fedora.Listed t) :
    t.imageType.enabledServices.Nodup := by
  have hdrafts : ∀ d ∈ Catalog.Fedora.drafts, d.enabledServices.Nodup := by decide
  exact hdrafts _ h.draft

/-- All pipelines with the tree of an operating system have the units of the image type and of the
blueprint, put together without a conflict. Only two families of installers have no such tree. -/
theorem units_ofRequest {distribution arch name : String} {t : Target} {b : Blueprint}
    {o : Options} {repositories : List Repository} {seed : Int} {m : Manifest} {ws : List Warning}
    (ht : Catalog.Fedora.registry.get distribution arch name = .ok t)
    (h : ofRequest t b o repositories seed = .ok (m, ws)) :
    ((∃ p ∈ m.pipelines, p.name ∈ treeNames) ↔
      t.family ≠ .liveInstaller ∧ t.family ≠ .ostreeInstaller) ∧
    ∀ p ∈ m.pipelines, p.name ∈ treeNames → ∃ enabled disabled masked,
      UnitsSettled (t.imageType.enabledServices.map .str) (b.settings.services.getD {})
        enabled disabled masked ∧
      UnitsWritten enabled disabled masked (stagesOf "systemd" p.stages) := by
  obtain ⟨hv, hbuild⟩ := ofRequest_eq_ok.1 h
  obtain ⟨table, -, hassemble⟩ := build_eq_ok.1 hbuild
  refine ⟨exists_treeName_iff hassemble, fun p hp hname => ?_⟩
  rw [(isTree_of_mem hassemble hp hname).stagesOf_eq]
  exact unitsSettled_servicesStage? (c := contextOf t b o repositories table)
    (nodup_enabledServices (Catalog.Fedora.listed_of_get ht))
    (Request.validate_eq_ok.1 hv).1.services

/-- A disk image that enables a unit twice and one of its own, and disables one of its own. -/
theorem units_ofRequest_qcow2 :
    let s : ServiceSettings := {
      enabled := ["cups.service", "cloud-init.service", "cups.service"]
      disabled := ["cloud-final.service", "avahi.service"]
      masked := ["tmp.mount"] }
    let b : Blueprint := { customizations := some { services := some s } }
    ∃ t m p enabled disabled masked,
      Catalog.Fedora.registry.get "fedora-38" "x86_64" "qcow2" = .ok t ∧
      ofRequest t b {} [] 7 = .ok (m, []) ∧ p ∈ m.pipelines ∧ p.name ∈ treeNames ∧
      UnitsSettled (t.imageType.enabledServices.map .str) s enabled disabled masked ∧
      UnitsWritten enabled disabled masked (stagesOf "systemd" p.stages) := by
  intro s b
  obtain ⟨⟨_, _, ⟨d, h₁, h₂, h₃⟩, _⟩, ht, rfl, rfl, hd, -⟩ := Catalog.Fedora.get_qcow2
  obtain rfl : d = Catalog.Fedora.drafts[14] := hd
  have hb : b.WellTyped := .of_customizations
    { Blueprint.Customizations.wellTyped_default with
      services := fun _ hs => Option.some.inj hs ▸ rfl }
  have hv : Request.validate .standard ⟨Catalog.Fedora.drafts[14], h₁, h₂, h₃⟩ b {} = .ok [] := rfl
  obtain ⟨m, h⟩ := exists_ofRequest (Catalog.Fedora.listed_of_get ht) hb hv rfl [] 7
  obtain ⟨hfamilies, hunits⟩ := units_ofRequest ht h
  obtain ⟨p, hp, hname⟩ := hfamilies.2
    (show Family.disk ≠ .liveInstaller ∧ Family.disk ≠ .ostreeInstaller by decide)
  obtain ⟨enabled, disabled, masked, hsettled, hwritten⟩ := hunits p hp hname
  exact ⟨_, m, p, enabled, disabled, masked, ht, h, hp, hname, hsettled, hwritten⟩

end Imagewright.Manifest
