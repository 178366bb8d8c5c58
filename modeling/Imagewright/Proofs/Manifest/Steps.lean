import Imagewright.Manifest.Assembly
import Imagewright.Proofs.Raised
import Imagewright.Proofs.Request.Accepted

/-!
# The steps of assembling manifests

What each step of the assembly gives, and that it gives it if and only if the steps before it did.

## Main statements

* `Manifest.customizationStages_eq_ok`, `Manifest.osPipeline_eq_ok`,
  `Manifest.deploymentPipeline_eq_ok`, `Manifest.imagePipeline_eq_ok`: stages and pipelines.
* `Manifest.untagged_buildFor`, `Manifest.untagged_ofRequestFor`: the tag of a request does not
  decide about its manifest.
-/
namespace Imagewright.Manifest

open Blueprint (Customizations)
open Outcome

theorem liftM_mismatch_eq_ok {α : Type} {x : Except Value.Mismatch α} {a : α} :
    (liftM x : Except AssemblyError α) = .ok a ↔ x = .ok a := mapError_eq_ok

theorem liftM_numeral_eq_ok {α : Type} {x : Except Text.NumeralError α} {a : α} :
    (liftM x : Except AssemblyError α) = .ok a ↔ x = .ok a := mapError_eq_ok

theorem liftM_template_eq_ok {α : Type} {x : Except Text.TemplateError α} {a : α} :
    (liftM x : Except AssemblyError α) = .ok a ↔ x = .ok a := mapError_eq_ok

/-! ## Customizations -/

section

variable {c : Customizations}

theorem usersStage_eq_ok {s : Stage} :
    usersStage c = .ok s ↔ ∃ entries, userEntries c = .ok entries ∧
      { stage "users" with keyed := [("users", entries)] } = s := by
  unfold usersStage
  simp only [bind_eq_ok, pure_eq_ok]

theorem accountStages_eq_ok {ss : List Stage} :
    accountStages c = .ok ss ↔ ∃ users,
      (if (c.users.isEmpty && c.sshKeys.isEmpty) = true then [] = users
        else ∃ s, usersStage c = .ok s ∧ [s] = users) ∧
      (if c.groups.isEmpty then [] else [groupsStage c]) ++ users = ss := by
  unfold accountStages
  simp only [ite_step_eq_ok, pure_eq_ok]

theorem directoryEntry_eq_ok {d : Blueprint.Directory} {v : Value} :
    directoryEntry d = .ok v ↔ ∃ mode,
      (if d.mode.isNull = true then [] = mode
        else ∃ n, modeNumber d.mode = .ok n ∧ [("mode", Value.int n)] = mode) ∧
      Value.obj ([("path", d.path)] ++ mode ++
        if d.ensureParents then [("parents", .bool true), ("exist_ok", .bool true)] else []) =
          v := by
  unfold directoryEntry
  simp only [ite_step_eq_ok, pure_eq_ok]

theorem nodeStages_eq_ok {ss : List Stage} :
    nodeStages c = .ok ss ↔ ∃ directories owners modes,
      c.directories.mapM directoryEntry = .ok directories ∧ ownership c = .ok owners ∧
      fileModes c = .ok modes ∧
      (if directories.isEmpty then [] else [stage "mkdir" [("paths", .list directories)]]) ++
        (if c.files.isEmpty then []
          else [stage "inline-files" [("files", .list (c.files.map fileEntry))]]) ++
        entriesStage "chown" owners ++ entriesStage "chmod" modes = ss := by
  unfold nodeStages
  simp only [bind_eq_ok, liftM_mismatch_eq_ok, pure_eq_ok]
  grind

theorem customizationStages_eq_ok {ss : List Stage} :
    customizationStages c = .ok ss ↔ ∃ accounts nodes,
      accountStages c = .ok accounts ∧ nodeStages c = .ok nodes ∧
      localeStages c ++ hostnameStages c ++ timezoneStages c ++ accounts ++
        (c.firewall.map firewallStage).toList ++ nodes ++ openscapStages c = ss := by
  unfold customizationStages
  simp only [bind_eq_ok, liftM_mismatch_eq_ok, pure_eq_ok]
  grind

theorem kickstartStage_eq_ok {options : List (String × Value)} {s : Stage} :
    kickstartStage c options = .ok s ↔ ∃ users,
      (if c.users.isEmpty = true then [] = users
        else ∃ entries, userEntries c = .ok entries ∧ [("users", entries)] = users) ∧
      { stage "kickstart" (options ++
          if c.groups.isEmpty then [] else [("groups", .obj (groupEntries c.groups))]) with
        keyed := users } = s := by
  unfold kickstartStage
  simp only [ite_step_eq_ok, pure_eq_ok]

end

/-! ## Settings of images -/

section

variable {c : Context}

theorem ostree_eq_ok {o : Request.OstreeOptions} :
    c.ostree = .ok o ↔ c.options.ostree = some o := by
  unfold Context.ostree
  cases c.options.ostree <;> simp

theorem diskTable_eq_ok {t : Disk.PartitionTable} : c.diskTable = .ok t ↔ c.table = some t := by
  unfold Context.diskTable
  cases c.table <;> simp

theorem kernelOptions_eq_ok {s : String} :
    c.kernelOptions = .ok s ↔ c.target.kernelOptions c.blueprint = .ok s := by
  unfold Context.kernelOptions
  simp only [liftM_mismatch_eq_ok]

/-- The ref that is asked for, or that of the image type. -/
theorem ostreeRef_eq_ok {o : Request.OstreeOptions} (ho : c.options.ostree = some o)
    {ref : String} : c.ostreeRef = .ok ref ↔
      if o.ref = "" then c.target.ostreeRef = .ok ref else ref = o.ref := by
  unfold Context.ostreeRef
  by_cases href : o.ref = ""
  · simp [ho, href, Option.filter, liftM_template_eq_ok]
  · simpa [ho, href, Option.filter] using eq_comm

theorem commitSource_eq_ok {s : OstreeSource} :
    c.commitSource = .ok s ↔ ∃ o ref, c.options.ostree = some o ∧ c.ostreeRef = .ok ref ∧
      { url := o.url, ref := ref, contentUrl := o.contentUrl } = s := by
  unfold Context.commitSource
  simp only [bind_eq_ok, ostree_eq_ok, pure_eq_ok]
  grind

/-! ## Pipelines -/

theorem osPipeline_eq_ok {committed : Bool} {p : Pipeline} :
    osPipeline c committed = .ok p ↔ ∃ kernelOptions customizations,
      c.kernelOptions = .ok kernelOptions ∧
      customizationStages c.settings = .ok customizations ∧
      c.pipeline "os" (
        [installStage (c.repositoriesFor "os")] ++
        (c.table.map (commandLineStages · kernelOptions)).getD [] ++ customizations ++
        (servicesStage? c).toList ++ (c.table.map (bootStages c · kernelOptions)).getD [] ++
        [selinuxStage] ++
        if committed then
          [stage "ostree.preptree" [("etc_group_members", Value.texts ["wheel", "docker"])]]
        else []) = p := by
  unfold osPipeline
  cases c.table with
  | none => simp only [bind_eq_ok, pure_eq_ok, Option.map_none, Option.getD_none]; grind
  | some t => simp only [bind_eq_ok, pure_eq_ok, Option.map_some, Option.getD_some]; grind

theorem copyStage_eq_ok {t : Disk.PartitionTable} {tree : String} {s : Stage} :
    copyStage t tree = .ok s ↔
      (∀ f ∈ placed t, f.filesystem.mountpoint.size?.isSome = true) ∧
      { stage "copy" [
          ("paths", .list [copyPath "input://root-tree/" s!"mount://{rootName (placed t)}/"])] with
        inputs := [("root-tree", .tree tree)]
        mounts := (sortMounts ((placed t).map (·.mount))).map .filesystem } = s := by
  unfold copyStage
  by_cases h : ∀ f ∈ placed t, f.filesystem.mountpoint.size?.isSome = true
  · have hall : ((placed t).map (·.mount)).all (·.target.size?.isSome) = true := by
      simpa [PlacedFilesystem.mount] using h
    simp only [hall, if_true, Except.ok.injEq]
    exact ⟨fun hs => ⟨h, hs⟩, fun hs => hs.2⟩
  · have hall : ((placed t).map (·.mount)).all (·.target.size?.isSome) = false := by
      simpa [PlacedFilesystem.mount] using h
    simp [hall, h]

theorem map_filesystem_placedFrom (index : Nat) (ps : List Disk.Partition) :
    (placedFrom index ps).map (·.filesystem) = ps.filterMap (·.filesystem) := by
  induction ps generalizing index with
  | nil => rfl
  | cons p ps ih =>
    unfold placedFrom
    cases hf : p.filesystem with
    | none => simpa [hf] using ih (index + 1)
    | some f => simpa [hf] using ih (index + 1)

/-- The filesystems with their partitions are those of the table. -/
theorem map_filesystem_placed (t : Disk.PartitionTable) :
    (placed t).map (·.filesystem) = t.filesystems := map_filesystem_placedFrom 0 t.partitions

theorem filesystem_mem_of_placed {t : Disk.PartitionTable} {f : PlacedFilesystem}
    (h : f ∈ placed t) : f.filesystem ∈ t.filesystems := by
  rw [← map_filesystem_placed]
  exact List.mem_map_of_mem h

theorem imageStages_eq_ok {t : Disk.PartitionTable} {filename : Value} {arch tree : String}
    {mode : Catalog.BootMode} {ss : List Stage} :
    imageStages t filename arch mode tree = .ok ss ↔ ∃ copy, copyStage t tree = .ok copy ∧
      [truncateStage t filename, partitionStage t filename] ++
        (placed t).map (fun f => makeFilesystemStage filename f.partition f.filesystem) ++
        [copy] ++ bootloaderInstallStages filename arch mode = ss := by
  simp only [imageStages, bind_eq_ok, pure_eq_ok]

theorem imagePipeline_eq_ok {filename tree : String} {p : Pipeline} :
    imagePipeline c filename tree = .ok p ↔ ∃ t copy, c.table = some t ∧
      copyStage t tree = .ok copy ∧
      Context.plainPipeline "image" (
        [truncateStage t filename, partitionStage t filename] ++
        (placed t).map (fun f => makeFilesystemStage filename f.partition f.filesystem) ++
        [copy] ++ bootloaderInstallStages filename c.arch c.target.bootMode) = p := by
  unfold imagePipeline imageStages
  simp only [bind_eq_ok, diskTable_eq_ok, liftM_mismatch_eq_ok, pure_eq_ok]
  grind

theorem imageStages_of_imagePipeline {t : Disk.PartitionTable} (ht : c.table = some t)
    {filename tree : String} {p : Pipeline} (h : imagePipeline c filename tree = .ok p) :
    imageStages t filename c.arch c.target.bootMode tree = .ok p.stages := by
  obtain ⟨t', copy, ht', hcopy, rfl⟩ := imagePipeline_eq_ok.1 h
  obtain rfl : t' = t := Option.some.inj (ht'.symm.trans ht)
  exact imageStages_eq_ok.2 ⟨copy, hcopy, rfl⟩

theorem deploymentPipeline_eq_ok {p : Pipeline} :
    deploymentPipeline c = .ok p ↔ ∃ ref o kernelOptions users nodes t,
      c.ostreeRef = .ok ref ∧ c.options.ostree = some o ∧
      c.kernelOptions = .ok kernelOptions ∧
      (if c.settings.users.isEmpty = true then [] = users
        else ∃ s, usersStage c.settings = .ok s ∧ [s] = users) ∧
      nodeStages c.settings = .ok nodes ∧ c.table = some t ∧
      Context.plainPipeline "ostree-deployment" (
        deployStages ref (if o.contentUrl.truthy then o.contentUrl else o.url) kernelOptions ++
        (if c.settings.groups.isEmpty then [] else [groupsStage c.settings]) ++ users ++ nodes ++
        (servicesStage? c).toList ++ [fstabStage t] ++
        bootloaderStages t c.arch .uefi "" c.target.release.product ++
        [stage "ostree.selinux" [
          ("deployment", .obj [("osname", .str deploymentName), ("ref", .str ref)])]]) = p := by
  unfold deploymentPipeline
  simp only [bind_eq_ok, ostree_eq_ok, diskTable_eq_ok, liftM_mismatch_eq_ok, ite_step_eq_ok,
    pure_eq_ok]
  grind

theorem commitPipeline_eq_ok {r : Pipeline × List OstreeSource} :
    commitPipeline c = .ok r ↔ ∃ ref, c.ostreeRef = .ok ref ∧
      (let options := [("ref", .str ref), ("os_version", .str c.target.release.releasever)]
       let commit (options : List (String × Value)) : Stage :=
         { stage "ostree.commit" options with inputs := [("tree", .tree "os")] }
       match c.options.ostree.filter fun o => o.parent != "" && o.url.truthy with
       | none =>
         (Context.plainPipeline "ostree-commit" [initStage "/repo", commit options], [])
       | some o =>
         (Context.plainPipeline "ostree-commit" [
            initStage "/repo", pullStage "/repo" o.parent,
            commit (options ++ [("parent", .str o.parent)])],
          [{ url := o.url, ref := o.parent }])) = r := by
  unfold commitPipeline
  cases c.options.ostree.filter fun o => o.parent != "" && o.url.truthy with
  | none => simp only [bind_eq_ok, pure_eq_ok]
  | some o => simp only [bind_eq_ok, pure_eq_ok]

/-! ## Manifests -/

def diskFile (c : Context) : String :=
  if c.target.imageType.exportFormat == "raw" then c.filename else "disk.raw"

theorem diskManifest_eq_ok {m : Manifest} :
    diskManifest c = .ok m ↔ ∃ os image, osPipeline c = .ok os ∧
      imagePipeline c (diskFile c) "os" = .ok image ∧
      { pipelines := [buildPipeline c, os, image] ++
          exportPipelines c "image" (diskFile c) } = m := by
  unfold diskManifest
  simp only [bind_eq_ok, pure_eq_ok, diskFile]
  grind

theorem containerManifest_eq_ok {m : Manifest} :
    containerManifest c = .ok m ↔ ∃ os, osPipeline c = .ok os ∧
      { pipelines := [buildPipeline c, os,
          if c.target.imageType.exportFormat == "archive" then
            Context.plainPipeline "archive" [tarStage "os" c.filename]
          else Context.plainPipeline "container" [
            ociArchiveStage "os" c.filename c.arch ["/bin/bash"]]] } = m := by
  unfold containerManifest
  simp only [bind_eq_ok, pure_eq_ok]

theorem commitManifest_eq_ok {m : Manifest} :
    commitManifest c = .ok m ↔ ∃ commit sources os, commitPipeline c = .ok (commit, sources) ∧
      osPipeline c true = .ok os ∧
      { pipelines := [buildPipeline c, os, commit,
          Context.plainPipeline "commit-archive" [tarStage "ostree-commit" c.filename]]
        ostreeSources := sources } = m := by
  unfold commitManifest
  simp only [bind_eq_ok, pure_eq_ok, Prod.exists]
  grind

theorem commitContainerManifest_eq_ok {m : Manifest} :
    commitContainerManifest c = .ok m ↔ ∃ commit sources ref os,
      commitPipeline c = .ok (commit, sources) ∧ c.ostreeRef = .ok ref ∧
      osPipeline c true = .ok os ∧
      { pipelines := [buildPipeline c, os, commit,
          c.pipeline "container-tree" [
            installStage (c.repositoriesFor "container-tree"),
            selinuxStage,
            initStage servedRepository,
            pullFromStage servedRepository "ostree-commit" ref,
            stage "nginxconf" [
              ("path", "/etc/nginx.conf"), ("config", .obj [("listen", "8080")])]],
          Context.plainPipeline "container" [
            ociArchiveStage "container-tree" c.filename c.arch ["nginx", "-c", "/etc/nginx.conf"]]]
        ostreeSources := sources } = m := by
  unfold commitContainerManifest
  simp only [bind_eq_ok, pure_eq_ok, Prod.exists]
  grind

theorem deployedDiskManifest_eq_ok {m : Manifest} :
    deployedDiskManifest c = .ok m ↔ ∃ deployment image source,
      deploymentPipeline c = .ok deployment ∧
      imagePipeline c "image.raw" "ostree-deployment" = .ok image ∧
      c.commitSource = .ok source ∧
      { pipelines := [buildPipeline c, deployment, image] ++
          exportPipelines c "image" "image.raw"
        ostreeSources := [source] } = m := by
  unfold deployedDiskManifest
  simp only [bind_eq_ok, pure_eq_ok]
  grind

theorem imageInstallerManifest_eq_ok {m : Manifest} :
    imageInstallerManifest c = .ok m ↔ ∃ kickstart os,
      kickstartStage c.settings [
        ("path", Value.str "/osbuild.ks"),
        ("liveimg", .obj [("url", "file:///run/install/repo/liveimg.tar.gz")])] = .ok kickstart ∧
      osPipeline c = .ok os ∧
      { pipelines := [buildPipeline c, anacondaPipeline c, os,
          efibootPipeline c (installerKernelOptions c),
          isoTreePipeline c "anaconda-tree" [tarStage "os" "liveimg.tar.gz", kickstart],
          isoPipeline c] } = m := by
  unfold imageInstallerManifest
  simp only [bind_eq_ok, liftM_mismatch_eq_ok, pure_eq_ok]
  grind

theorem commitInstallerManifest_eq_ok {m : Manifest} :
    commitInstallerManifest c = .ok m ↔ ∃ ref kickstart source,
      c.ostreeRef = .ok ref ∧
      kickstartStage c.settings [
        ("path", Value.str "/osbuild.ks"),
        ("ostree", .obj [
          ("osname", .str deploymentName),
          ("url", "file:///ostree/repo"),
          ("ref", .str ref),
          ("remote", .str deploymentName),
          ("gpg", .bool false)])] = .ok kickstart ∧
      c.commitSource = .ok source ∧
      { pipelines := [buildPipeline c, anacondaPipeline c,
          efibootPipeline c (installerKernelOptions c),
          isoTreePipeline c "anaconda-tree" [
            initStage "/ostree/repo", pullStage "/ostree/repo" ref, kickstart],
          isoPipeline c]
        ostreeSources := [source] } = m := by
  unfold commitInstallerManifest
  simp only [bind_eq_ok, liftM_mismatch_eq_ok, pure_eq_ok]
  grind

theorem simplifiedInstallerManifest_eq_ok {m : Manifest} :
    simplifiedInstallerManifest c = .ok m ↔ ∃ kernelOptions deployment image source,
      simplifiedKernelOptions c "image.raw.xz" = .ok kernelOptions ∧
      deploymentPipeline c = .ok deployment ∧
      imagePipeline c "image.raw" "ostree-deployment" = .ok image ∧
      c.commitSource = .ok source ∧
      { pipelines := [buildPipeline c, deployment, image,
          Context.plainPipeline "xz" [xzStage "image" "image.raw" "image.raw.xz"],
          coreosPipeline c, efibootPipeline c kernelOptions,
          isoTreePipeline c "coi-tree" (simplifiedExtraStages c "image.raw.xz"), isoPipeline c]
        ostreeSources := [source] } = m := by
  unfold simplifiedInstallerManifest
  simp only [bind_eq_ok, pure_eq_ok]
  grind

end

section

open Catalog (Target)
open Request (Options)

variable {t : Target} {b : Blueprint} {o : Options} {repositories : List Repository} {seed : Int}

theorem planTable_eq_ok {σ : Type} [Random.Source σ] {source : σ} {table : Disk.PartitionTable} :
    planTable t b o source = .ok table ↔ ∃ base, t.table = some base ∧
      Disk.plan .standard base b.settings.filesystem (t.size o.size) Disk.requiredSizes
        (o.size != 0) source = .ok table := by
  unfold planTable
  cases t.table with
  | some base => simp
  | none =>
    cases Disk.checkMountpoints .standard b.settings.filesystem <;> simp [throw, throwThe,
      MonadExceptOf.throw]

theorem error_raised (e : Disk.PlanError) : e.raised.error = e := by
  unfold Disk.PlanError.raised
  split <;> rfl

/-- The tag of a request does not decide about its manifest. -/
theorem untagged_buildFor (id : String) : Raised.untagged (buildFor t b o repositories seed id) =
    (if t.family.partitioned then
        some <$> (planTable t b o (Random.Twister.ofSeed seed)).mapError .disk
      else pure none) >>= fun table =>
      (assemble (contextOf t b o repositories table)).mapError .pipelines := by
  have hhandler : ∀ e : Disk.PlanError,
      (((e.raised.retag id).map BuildError.disk).error : BuildError) = .disk e :=
    fun e => congrArg BuildError.disk (error_raised e)
  unfold buildFor
  split
  · simp only [Raised.untagged_bind, Raised.untagged_map, Raised.untagged_mapError, hhandler]
    rfl
  · simp only [Raised.untagged_bind, Raised.untagged_mapError, Raised.untagged_pure]
    rfl

theorem build_eq : build t b o repositories seed =
    (if t.family.partitioned then
        some <$> (planTable t b o (Random.Twister.ofSeed seed)).mapError .disk
      else pure none) >>= fun table =>
      (assemble (contextOf t b o repositories table)).mapError .pipelines :=
  untagged_buildFor ""

theorem build_eq_ok {m : Manifest} :
    build t b o repositories seed = .ok m ↔ ∃ table,
      (if t.family.partitioned = true then
        ∃ planned, planTable t b o (Random.Twister.ofSeed seed) = .ok planned ∧
          some planned = table
      else none = table) ∧
      assemble (contextOf t b o repositories table) = .ok m := by
  rw [build_eq]
  split
  · simp only [bind_eq_ok, map_eq_ok, mapError_eq_ok]
  · simp only [bind_eq_ok, pure_eq_ok, mapError_eq_ok]

/-- Errors of disks are passed on with the tag of the request, and those of pipelines have none. -/
theorem raised_of_buildFor {id : String} {x : Raised BuildError}
    (h : buildFor t b o repositories seed id = .error x) :
    (∃ d : Disk.PlanError, x = (d.raised.retag id).map .disk) ∨ ∃ a, x = .plain (.pipelines a) := by
  have hpipelines : ∀ table, (assemble (contextOf t b o repositories table)).mapError
      (fun e => Raised.plain (.pipelines e)) = .error x → ∃ a, x = .plain (.pipelines a) := by
    intro table hassemble
    obtain ⟨a, -, rfl⟩ := mapError_eq_error.1 hassemble
    exact ⟨a, rfl⟩
  unfold buildFor at h
  split at h
  · rcases bind_eq_error.1 h with htable | ⟨table, -, hassemble⟩
    · obtain ⟨d, -, rfl⟩ := mapError_eq_error.1 (map_eq_error.1 htable)
      exact .inl ⟨d, rfl⟩
    · exact .inr (hpipelines table hassemble)
  · exact .inr (hpipelines none h)

/-- The tag of a request does not decide about it. -/
theorem untagged_ofRequestFor (id : String) :
    Raised.untagged (ofRequestFor t b o repositories seed id) =
      (Request.validate t.release.mountpointPolicy t.imageType b o).mapError .rejected >>= fun ws =>
        (build t b o repositories seed).mapError .unbuilt >>= fun m => .ok (m, ws) := by
  unfold ofRequestFor
  simp only [Raised.untagged_bind, Raised.untagged_mapError_map, Request.untagged_validateFor,
    untagged_buildFor, build_eq]
  rfl

theorem ofRequest_eq : ofRequest t b o repositories seed =
    (Request.validate t.release.mountpointPolicy t.imageType b o).mapError .rejected >>= fun ws =>
      (build t b o repositories seed).mapError .unbuilt >>= fun m => .ok (m, ws) :=
  untagged_ofRequestFor ""

theorem ofRequestFor_eq_ok {id : String} {m : Manifest} {ws : List Request.Warning} :
    ofRequestFor t b o repositories seed id = .ok (m, ws) ↔
      ofRequest t b o repositories seed = .ok (m, ws) := by
  rw [← Raised.untagged_eq_ok, untagged_ofRequestFor, ofRequest_eq]

theorem ofRequest_of_error {id : String} {r : Raised RequestError}
    (h : ofRequestFor t b o repositories seed id = .error r) :
    ofRequest t b o repositories seed = .error r.error := by
  rw [ofRequest_eq, ← untagged_ofRequestFor id, h]
  rfl

theorem ofRequest_eq_ok {m : Manifest} {ws : List Request.Warning} :
    ofRequest t b o repositories seed = .ok (m, ws) ↔
      Request.validate t.release.mountpointPolicy t.imageType b o = .ok ws ∧
        build t b o repositories seed = .ok m := by
  rw [ofRequest_eq]
  simp only [bind_eq_ok, mapError_eq_ok, Except.ok.injEq]
  grind

theorem ofRequest_eq_error {e : RequestError} :
    ofRequest t b o repositories seed = .error e ↔
      (∃ r, Request.validate t.release.mountpointPolicy t.imageType b o = .error r ∧
        e = .rejected r) ∨
      ∃ ws a, Request.validate t.release.mountpointPolicy t.imageType b o = .ok ws ∧
        build t b o repositories seed = .error a ∧ e = .unbuilt a := by
  rw [ofRequest_eq]
  simp only [bind_eq_error, mapError_eq_ok, mapError_eq_error]
  constructor
  · rintro (⟨r, hr, rfl⟩ | ⟨ws, hws, ⟨a, ha, rfl⟩ | ⟨m, -, hdone⟩⟩)
    · exact .inl ⟨r, hr, rfl⟩
    · exact .inr ⟨ws, a, hws, ha, rfl⟩
    · cases hdone
  · rintro (⟨r, hr, rfl⟩ | ⟨ws, a, hws, ha, rfl⟩)
    · exact .inl ⟨r, hr, rfl⟩
    · exact .inr ⟨ws, hws, .inl ⟨a, ha, rfl⟩⟩

end
end Imagewright.Manifest
