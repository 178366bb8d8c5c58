import Imagewright.Proofs.Manifest.Steps

/-!
# What pipelines take and write

The inputs of each pipeline, the files that it writes, and the types of the stages that customize a
tree.

## Main definitions

* `Manifest.Pipeline.takes`: the inputs of all stages of a pipeline.
* `Manifest.Pipeline.Writes`: a stage of a pipeline writes a file.
* `Manifest.Pipeline.BuiltAs`: the name, the build root and the inputs of a pipeline.

## Main statements

* `Manifest.customizing_customizationStages`: the stages that customize a tree take nothing.
* `Manifest.osPipeline_builtAs`, `Manifest.imagePipeline_builtAs`, …: one for each pipeline.
-/
namespace Imagewright.Manifest

open Blueprint (Customizations)

def takesOf (ss : List Stage) : List Input := ss.flatMap fun s => s.inputs.map (·.2)

def Pipeline.takes (p : Pipeline) : List Input := takesOf p.stages

def Stage.filename? (s : Stage) : Option Value := Assoc.get? s.options "filename"

/-- A stage of a pipeline writes a file. -/
def Pipeline.Writes (p : Pipeline) (filename : String) : Prop :=
  ∃ s ∈ p.stages, s.filename? = some (.str filename)

/-- The name, the build root and the inputs of a pipeline. -/
structure Pipeline.BuiltAs (p : Pipeline) (name : String) (takes : List Input) : Prop where
  name_eq : p.name = name
  build_eq : p.build = some buildName
  takes_eq : p.takes = takes

/-! ## Stages that customize a tree -/

/-- The types of the stages that customize a tree. -/
def customizationTypes : List String :=
  ["locale", "keymap", "hostname", "timezone", "chrony", "groups", "users", "firewall", "mkdir",
    "inline-files", "chown", "chmod", "oscap.remediation"].map ("org.osbuild." ++ ·)

/-- Stages that customize a tree. They take nothing. -/
def Customizing (ss : List Stage) : Prop :=
  ∀ s ∈ ss, s.type ∈ customizationTypes ∧ s.inputs = []

namespace Customizing

variable {ss ts : List Stage}

theorem nil : Customizing [] := fun _ h => absurd h List.not_mem_nil

theorem append (hs : Customizing ss) (ht : Customizing ts) : Customizing (ss ++ ts) :=
  List.forall_mem_append.2 ⟨hs, ht⟩

theorem one {type : String} (h : "org.osbuild." ++ type ∈ customizationTypes)
    (options : List (String × Value)) (keyed : List (String × Entries) := []) :
    Customizing [{ stage type options with keyed := keyed }] :=
  List.forall_mem_singleton.2 ⟨h, rfl⟩

theorem ite {p : Prop} [Decidable p] (hs : Customizing ss) (ht : Customizing ts) :
    Customizing (if p then ss else ts) := by
  split
  · exact hs
  · exact ht

end Customizing

section

variable {c : Customizations} {ss : List Stage}

theorem customizing_entriesStage {type : String}
    (h : "org.osbuild." ++ type ∈ customizationTypes) (entries : Entries) :
    Customizing (entriesStage type entries) := .ite .nil (.one h _ _)

theorem customizing_nodeStages (h : nodeStages c = .ok ss) : Customizing ss := by
  obtain ⟨directories, owners, modes, -, -, -, rfl⟩ := nodeStages_eq_ok.1 h
  have hmkdir : Customizing [stage "mkdir" [("paths", .list directories)]] :=
    .one (by decide) _
  have hfiles : Customizing [stage "inline-files" [("files", .list (c.files.map fileEntry))]] :=
    .one (by decide) _
  exact (((Customizing.ite .nil hmkdir).append (.ite .nil hfiles)).append
    (customizing_entriesStage (by decide) owners)).append
    (customizing_entriesStage (by decide) modes)

theorem customizing_usersStage {s : Stage} (h : usersStage c = .ok s) : Customizing [s] := by
  obtain ⟨entries, -, rfl⟩ := usersStage_eq_ok.1 h
  exact .one (by decide) _ _

theorem customizing_optionalUsers {p : Prop} [Decidable p] {users : List Stage}
    (h : if p then [] = users else ∃ s, usersStage c = .ok s ∧ [s] = users) :
    Customizing users := by
  split at h
  · exact h ▸ .nil
  · obtain ⟨s, hs, rfl⟩ := h
    exact customizing_usersStage hs

theorem customizing_groupsStage : Customizing [groupsStage c] := .one (by decide) _

theorem customizing_accountStages (h : accountStages c = .ok ss) : Customizing ss := by
  obtain ⟨users, husers, rfl⟩ := accountStages_eq_ok.1 h
  exact (Customizing.ite .nil customizing_groupsStage).append (customizing_optionalUsers husers)

theorem customizing_openscapStages : Customizing (openscapStages c) := by
  unfold openscapStages
  split
  · exact .nil
  · exact .one (by decide) _

theorem customizing_customizationStages (h : customizationStages c = .ok ss) :
    Customizing ss := by
  obtain ⟨accounts, nodes, haccounts, hnodes, rfl⟩ := customizationStages_eq_ok.1 h
  have hlocale : Customizing (localeStages c) :=
    (Customizing.one (by decide) _).append (.ite (.one (by decide) _) .nil)
  have hhostname : Customizing (hostnameStages c) := .ite (.one (by decide) _) .nil
  have htimezone : Customizing (timezoneStages c) :=
    (Customizing.one (by decide) _).append (.ite .nil (.one (by decide) _))
  have hfirewall : Customizing (c.firewall.map firewallStage).toList := by
    cases c.firewall with
    | none => exact .nil
    | some f => exact .one (by decide) _
  exact (((((hlocale.append hhostname).append htimezone).append
    (customizing_accountStages haccounts)).append hfirewall).append
    (customizing_nodeStages hnodes)).append customizing_openscapStages

end

/-! ## Inputs of pipelines -/

@[simp] theorem takesOf_nil : takesOf [] = [] := rfl

@[simp] theorem takesOf_cons (s : Stage) (ss : List Stage) :
    takesOf (s :: ss) = s.inputs.map (·.2) ++ takesOf ss := rfl

@[simp] theorem takesOf_append (ss ts : List Stage) :
    takesOf (ss ++ ts) = takesOf ss ++ takesOf ts := List.flatMap_append

theorem takesOf_eq_nil {ss : List Stage} (h : ∀ s ∈ ss, s.inputs = []) : takesOf ss = [] :=
  List.flatMap_eq_nil_iff.2 fun s hs => by rw [h s hs]; rfl

theorem Customizing.takesOf_eq {ss : List Stage} (h : Customizing ss) : takesOf ss = [] :=
  takesOf_eq_nil fun s hs => (h s hs).2

@[simp] theorem inputs_stage (type : String) (options : List (String × Value)) :
    (stage type options).inputs = [] := rfl

theorem takesOf_bootloaderStages (t : Disk.PartitionTable) (arch : String)
    (mode : Catalog.BootMode) (kernelOptions : Value) (product : String) :
    takesOf (bootloaderStages t arch mode kernelOptions product) = [] := by
  unfold bootloaderStages
  split <;> rfl

section

variable {c : Context} {p : Pipeline}

theorem servicesStage?_eq_some {s : Stage} (h : servicesStage? c = some s) :
    s.type = "org.osbuild.systemd" ∧ s.inputs = [] := by
  have hunit : ∀ {enabled disabled masked s}, unitStage? enabled disabled masked = some s →
      s.type = "org.osbuild.systemd" ∧ s.inputs = [] := by
    intro enabled disabled masked s hs
    unfold unitStage? at hs
    simp only at hs
    split at hs
    · cases hs
    · exact Option.some.inj hs ▸ ⟨rfl, rfl⟩
  unfold servicesStage? at h
  simp only at h
  split at h
  · exact hunit h
  · exact hunit h

theorem takesOf_servicesStage? : takesOf (servicesStage? c).toList = [] :=
  takesOf_eq_nil fun _ hs => (servicesStage?_eq_some (Option.mem_toList.1 hs)).2

theorem inputs_kickstartStage {settings : Customizations} {options : List (String × Value)}
    {s : Stage} (h : kickstartStage settings options = .ok s) : s.inputs = [] := by
  obtain ⟨users, -, rfl⟩ := kickstartStage_eq_ok.1 h
  rfl

theorem osPipeline_builtAs {committed : Bool} (h : osPipeline c committed = .ok p) :
    p.BuiltAs "os" [] := by
  obtain ⟨kernelOptions, customizations, -, hc, rfl⟩ := osPipeline_eq_ok.1 h
  refine ⟨rfl, rfl, ?_⟩
  have hcustom := (customizing_customizationStages hc).takesOf_eq
  cases ht : c.table <;> cases committed <;>
    simp [Pipeline.takes, Context.pipeline, Context.plainPipeline, hcustom,
      takesOf_servicesStage?, commandLineStages, bootStages, takesOf_bootloaderStages,
      installStage, selinuxStage, kernelCommandStage, fstabStage]

theorem imagePipeline_builtAs {filename tree : String}
    (h : imagePipeline c filename tree = .ok p) :
    p.BuiltAs "image" [.tree tree] ∧ p.Writes filename := by
  obtain ⟨t, copy, -, hcopy, rfl⟩ := imagePipeline_eq_ok.1 h
  obtain ⟨-, rfl⟩ := copyStage_eq_ok.1 hcopy
  refine ⟨⟨rfl, rfl, ?_⟩, truncateStage t filename, by simp [Context.plainPipeline], rfl⟩
  have hmake : takesOf ((placed t).map fun f =>
      makeFilesystemStage filename f.partition f.filesystem) = [] := by
    refine takesOf_eq_nil fun s hs => ?_
    obtain ⟨f, -, rfl⟩ := List.mem_map.1 hs
    rfl
  have hboot : takesOf (bootloaderInstallStages filename c.arch c.target.bootMode) = [] := by
    unfold bootloaderInstallStages
    split <;> rfl
  simp [Pipeline.takes, Context.plainPipeline, hmake, hboot, truncateStage, partitionStage]

theorem commitPipeline_builtAs {sources : List OstreeSource}
    (h : commitPipeline c = .ok (p, sources)) :
    ∃ takes, p.BuiltAs "ostree-commit" takes ∧
      ∀ i ∈ takes, i = .tree "os" ∨ ∃ ref, i = .sourceCommit ref := by
  obtain ⟨ref, -, hp⟩ := commitPipeline_eq_ok.1 h
  simp only at hp
  split at hp
  · obtain ⟨rfl, -⟩ := Prod.mk.inj hp
    exact ⟨_, ⟨rfl, rfl, rfl⟩, by simp [Pipeline.takes, Context.plainPipeline, initStage]⟩
  · obtain ⟨rfl, -⟩ := Prod.mk.inj hp
    exact ⟨_, ⟨rfl, rfl, rfl⟩, by
      simp [Pipeline.takes, Context.plainPipeline, initStage, pullStage]⟩

theorem deploymentPipeline_builtAs (h : deploymentPipeline c = .ok p) :
    ∃ ref, c.ostreeRef = .ok ref ∧ p.BuiltAs "ostree-deployment" [.sourceCommit ref] := by
  obtain ⟨ref, o, kernelOptions, users, nodes, t, href, -, -, husers, hnodes, -, rfl⟩ :=
    deploymentPipeline_eq_ok.1 h
  refine ⟨ref, href, rfl, rfl, ?_⟩
  have hu := (customizing_optionalUsers husers).takesOf_eq
  have hn := (customizing_nodeStages hnodes).takesOf_eq
  have hg : takesOf (if c.settings.groups.isEmpty then [] else [groupsStage c.settings]) = [] :=
    (Customizing.ite .nil customizing_groupsStage).takesOf_eq
  simp only [Pipeline.takes, Context.plainPipeline, takesOf_append, hu, hn, hg,
    takesOf_servicesStage?, takesOf_bootloaderStages]
  simp [deployStages, pullStage, fstabStage]

theorem anacondaPipeline_builtAs (live : Bool) :
    (anacondaPipeline c live).BuiltAs "anaconda-tree" [] := by
  refine ⟨rfl, rfl, ?_⟩
  cases live <;>
    simp [anacondaPipeline, sessionStages, Pipeline.takes, Context.pipeline,
      Context.plainPipeline, installStage, selinuxStage]

theorem coreosPipeline_builtAs : (coreosPipeline c).BuiltAs "coi-tree" [] := ⟨rfl, rfl, rfl⟩

theorem efibootPipeline_builtAs (kernelOptions : List String) :
    (efibootPipeline c kernelOptions).BuiltAs "efiboot-tree" [] := ⟨rfl, rfl, rfl⟩

theorem isoTreePipeline_builtAs (compressed : String) (extra : List Stage) :
    (isoTreePipeline c compressed extra).BuiltAs "bootiso-tree"
      ([.tree compressed, .tree "efiboot-tree"] ++ takesOf extra) := ⟨rfl, rfl, rfl⟩

theorem takesOf_simplifiedExtraStages (imageFile : String) :
    takesOf (simplifiedExtraStages c imageFile) = [.file "xz" imageFile] := by
  unfold simplifiedExtraStages
  split <;> rfl

theorem isoPipeline_builtAs :
    (isoPipeline c).BuiltAs "bootiso" [.tree "bootiso-tree"] ∧
      (isoPipeline c).Writes c.filename := by
  refine ⟨⟨rfl, rfl, rfl⟩, _, List.mem_cons_self, rfl⟩

end

end Imagewright.Manifest
