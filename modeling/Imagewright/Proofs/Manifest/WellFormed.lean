import Imagewright.Proofs.Manifest.Pipelines
import Imagewright.Proofs.Manifest.Totality

/-!
# The graph of pipelines

Pipelines refer to each other by name. In the manifest of a request each name leads to one pipeline
that has run before, each file that is taken is written there, and the last pipeline writes the file
that is exported.

## Main definitions

* `Manifest.Input.Backed`: an input comes from earlier pipelines or from the sources.
* `Manifest.Linked`: every input of every pipeline is backed.
* `Manifest.WellFormed`: names, build roots, references and the exported file fit together.

## Main statements

* `Manifest.wellFormed_ofRequest`: the manifest of a request is well formed.
-/
namespace Imagewright.Manifest

open Catalog (Target)
open Request (Options Warning)

/-- An input comes from one of some pipelines, where a file of that name is written if a file is
taken, or it comes from the sources. -/
def Input.Backed (earlier : List Pipeline) : Input → Prop
  | .tree name | .pipelineCommit name _ => ∃ p ∈ earlier, p.name = name
  | .file name filename => ∃ p ∈ earlier, p.name = name ∧ p.Writes filename
  | .sourceCommit _ | .packages _ => True
  | .other _ => False

/-- Every input of each of some pipelines is backed by `earlier` ones and those before it. -/
def Linked (earlier : List Pipeline) : List Pipeline → Prop
  | [] => True
  | p :: rest => (∀ i ∈ p.takes, i.Backed earlier) ∧ Linked (earlier ++ [p]) rest

/-- The pipelines of a manifest fit together. -/
structure WellFormed (t : Target) (m : Manifest) : Prop where
  /-- No name comes twice. -/
  names : m.pipelineNames.Nodup
  /-- The first pipeline is the build root of all others and has the runner of the release. -/
  root : ∃ build rest, m.pipelines = build :: rest ∧ build.name = "build" ∧
    build.runner = some t.release.runner ∧ build.build = none ∧
    ∀ p ∈ rest, p.build = some "build"
  /-- What a pipeline takes comes from pipelines that stand before it. -/
  references : ∀ before p after, m.pipelines = before ++ p :: after →
    ∀ s ∈ p.stages, ∀ i ∈ s.inputs, i.2.Backed before
  /-- The last pipeline writes the file that is exported. -/
  exported : ∃ p, m.pipelines.getLast? = some p ∧ p.Writes t.imageType.filename

theorem Linked.backed {earlier before after : List Pipeline} {p : Pipeline}
    (h : Linked earlier (before ++ p :: after)) : ∀ i ∈ p.takes, i.Backed (earlier ++ before) := by
  induction before generalizing earlier with
  | nil => simpa using h.1
  | cons q before ih => simpa using ih h.2

/-- Pipelines behind the build root that are linked and named apart are well formed. -/
theorem wellFormed_of_linked {c : Context} (ps : List Pipeline) {sources : List OstreeSource}
    (hnames : (buildName :: ps.map (·.name)).Nodup) (hbuild : ∀ p ∈ ps, p.build = some buildName)
    (hlinked : Linked [buildPipeline c] ps)
    (hexported : ∃ p, ps.getLast? = some p ∧ p.Writes c.filename) :
    WellFormed c.target { pipelines := buildPipeline c :: ps, ostreeSources := sources } where
  names := hnames
  root := ⟨_, _, rfl, rfl, rfl, rfl, hbuild⟩
  references := by
    have hall : Linked [] (buildPipeline c :: ps) :=
      ⟨by simp [Pipeline.takes, buildPipeline, buildRootStages, installStage, selinuxStage],
        hlinked⟩
    intro before p after hsplit s hs i hi
    rw [show buildPipeline c :: ps = before ++ p :: after from hsplit] at hall
    simpa using hall.backed i.2
      (List.mem_flatMap.2 ⟨s, hs, List.mem_map_of_mem (f := (·.2)) hi⟩)
  exported := by
    obtain ⟨p, hp, hw⟩ := hexported
    refine ⟨p, ?_, hw⟩
    rw [List.getLast?_cons, hp]
    rfl

/-! ## Exports -/

theorem linked_append {earlier ps qs : List Pipeline} :
    Linked earlier (ps ++ qs) ↔ Linked earlier ps ∧ Linked (earlier ++ ps) qs := by
  induction ps generalizing earlier with
  | nil => simp [Linked]
  | cons p ps ih => simp [Linked, ih, and_assoc]

/-- The names that exports may have. -/
def exportNames : List (List String) :=
  [[], ["qcow2"], ["vpc"], ["vmdk"], ["xz"], ["vmdk", "ovf", "archive"]]

/-- The formats that an image of a disk is converted to. -/
def convertedFormats : List String := ["qcow2", "vpc", "vmdk", "xz", "ova"]

section

variable {c : Context} {source file : String}

theorem linked_exportPipelines {earlier : List Pipeline}
    (h : ∃ p ∈ earlier, p.name = source ∧ p.Writes file) :
    Linked earlier (exportPipelines c source file) := by
  have hsource : (Input.file source file).Backed earlier := h
  unfold exportPipelines
  simp only
  split_ifs
  · exact ⟨List.forall_mem_singleton.2 hsource, trivial⟩
  · exact ⟨List.forall_mem_singleton.2 hsource, trivial⟩
  · have hdisk : Pipeline.Writes (Context.plainPipeline "vmdk"
        [qemuStage source file "image.vmdk" "vmdk"]) "image.vmdk" :=
      ⟨_, List.mem_cons_self, rfl⟩
    refine ⟨List.forall_mem_singleton.2 hsource, List.forall_mem_singleton.2 ?_,
      List.forall_mem_singleton.2 ?_, trivial⟩
    · exact ⟨_, List.mem_append_right _ List.mem_cons_self, rfl, hdisk⟩
    · exact ⟨_, List.mem_append_right _ List.mem_cons_self, rfl⟩
  · trivial

theorem build_exportPipelines :
    ∀ p ∈ exportPipelines c source file, p.build = some buildName := by
  unfold exportPipelines
  simp only
  split_ifs <;> simp [Context.plainPipeline]

theorem names_exportPipelines (c : Context) (source file : String) :
    (exportPipelines c source file).map (·.name) ∈ exportNames := by
  unfold exportPipelines
  simp only
  split_ifs with hformat
  · simp only [Bool.or_eq_true, beq_iff_eq] at hformat
    rcases hformat with (hf | hf) | hf <;>
      simp [Context.plainPipeline, hf, exportNames]
  · simp [Context.plainPipeline, exportNames]
  · simp [Context.plainPipeline, exportNames]
  · simp [exportNames]

theorem exported_exportPipelines (source file : String)
    (h : c.target.imageType.exportFormat ∈ convertedFormats) :
    ∃ p, (exportPipelines c source file).getLast? = some p ∧ p.Writes c.filename := by
  unfold exportPipelines
  simp only
  split_ifs with hqemu hxz hova
  · exact ⟨_, rfl, _, List.mem_cons_self, rfl⟩
  · exact ⟨_, rfl, _, List.mem_cons_self, rfl⟩
  · exact ⟨_, rfl, _, List.mem_cons_self, rfl⟩
  · simp_all [convertedFormats]

end

/-! ## Families -/

section

variable {c : Context} {m : Manifest}

/-- A tree, the image of its disk, and the exports of that. -/
theorem wellFormed_of_image {tree image : Pipeline} {treeName file : String} {takes : List Input}
    {sources : List OstreeSource} (htree : tree.BuiltAs treeName takes)
    (htakes : ∀ i ∈ takes, ∃ ref, i = .sourceCommit ref)
    (hname : treeName ∈ ["os", "ostree-deployment"])
    (himage : image.BuiltAs "image" [.tree treeName]) (hfile : image.Writes file)
    (hformat : c.target.imageType.exportFormat ∈ convertedFormats ∨
      c.target.imageType.exportFormat = "raw" ∧ file = c.filename) :
    WellFormed c.target {
      pipelines := [buildPipeline c, tree, image] ++ exportPipelines c "image" file
      ostreeSources := sources } := by
  refine wellFormed_of_linked ([tree, image] ++ exportPipelines c "image" file) ?_ ?_ ?_ ?_
  · have hnames : ∀ name ∈ ["os", "ostree-deployment"], ∀ names ∈ exportNames,
        (buildName :: name :: "image" :: names).Nodup := by decide
    simpa [htree.name_eq, himage.name_eq] using
      hnames treeName hname _ (names_exportPipelines c "image" file)
  · simpa [htree.build_eq, himage.build_eq] using build_exportPipelines
  · refine linked_append.2 ⟨⟨fun i hi => ?_, ?_, trivial⟩, linked_exportPipelines ?_⟩
    · obtain ⟨ref, rfl⟩ := htakes i (htree.takes_eq ▸ hi)
      trivial
    · rw [himage.takes_eq]
      exact List.forall_mem_singleton.2 ⟨tree, by simp, htree.name_eq⟩
    · exact ⟨image, by simp, himage.name_eq, hfile⟩
  · rcases hformat with hformat | ⟨hraw, rfl⟩
    · obtain ⟨p, hp, hw⟩ := exported_exportPipelines "image" file hformat
      exact ⟨p, by rw [List.getLast?_append, hp]; rfl, hw⟩
    · have hnone : exportPipelines c "image" c.filename = [] := by
        simp [exportPipelines, hraw]
      exact ⟨image, by rw [hnone]; rfl, hfile⟩

theorem wellFormed_diskManifest
    (hf : c.target.imageType.exportFormat ∈ "raw" :: convertedFormats)
    (h : diskManifest c = .ok m) : WellFormed c.target m := by
  obtain ⟨os, image, hos, himage, rfl⟩ := diskManifest_eq_ok.1 h
  obtain ⟨hbuilt, hfile⟩ := imagePipeline_builtAs himage
  refine wellFormed_of_image (osPipeline_builtAs hos) (by simp) (by simp) hbuilt hfile ?_
  rcases List.mem_cons.1 hf with hraw | hf
  · exact .inr ⟨hraw, by simp [diskFile, hraw]⟩
  · exact .inl hf

theorem wellFormed_deployedDiskManifest (hf : c.target.imageType.exportFormat ∈ convertedFormats)
    (h : deployedDiskManifest c = .ok m) : WellFormed c.target m := by
  obtain ⟨deployment, image, source, hd, himage, -, rfl⟩ := deployedDiskManifest_eq_ok.1 h
  obtain ⟨ref, -, hdeployment⟩ := deploymentPipeline_builtAs hd
  obtain ⟨hbuilt, hfile⟩ := imagePipeline_builtAs himage
  exact wellFormed_of_image hdeployment (by simp) (by simp) hbuilt hfile (.inl hf)

theorem wellFormed_containerManifest (h : containerManifest c = .ok m) :
    WellFormed c.target m := by
  obtain ⟨os, hos, rfl⟩ := containerManifest_eq_ok.1 h
  have htree := osPipeline_builtAs hos
  have key : ∀ (name : String) {p : Pipeline}, name ∈ ["archive", "container"] →
      p.BuiltAs name [.tree "os"] → p.Writes c.filename →
      WellFormed c.target { pipelines := [buildPipeline c, os, p] } := by
    intro name p hname hp hw
    refine wellFormed_of_linked [os, p] ?_ ?_ ?_ ⟨p, rfl, hw⟩
    · have hnodup : ∀ name ∈ ["archive", "container"], [buildName, "os", name].Nodup := by decide
      simpa [htree.name_eq, hp.name_eq] using hnodup name hname
    · simp [htree.build_eq, hp.build_eq]
    · simp [Linked, htree.takes_eq, hp.takes_eq, Input.Backed, htree.name_eq]
  split_ifs
  · exact key "archive" (by simp) ⟨rfl, rfl, rfl⟩ ⟨_, List.mem_cons_self, rfl⟩
  · exact key "container" (by simp) ⟨rfl, rfl, rfl⟩ ⟨_, List.mem_cons_self, rfl⟩

theorem wellFormed_commitManifest (h : commitManifest c = .ok m) : WellFormed c.target m := by
  obtain ⟨commit, sources, os, hc, hos, rfl⟩ := commitManifest_eq_ok.1 h
  have htree := osPipeline_builtAs hos
  obtain ⟨takes, hcommit, htakes⟩ := commitPipeline_builtAs hc
  have harchive : Pipeline.BuiltAs (Context.plainPipeline "commit-archive"
      [tarStage "ostree-commit" c.filename]) "commit-archive" [.tree "ostree-commit"] :=
    ⟨rfl, rfl, rfl⟩
  refine wellFormed_of_linked [os, commit, _] ?_ ?_ ⟨?_, ?_, ?_, trivial⟩
    ⟨_, rfl, _, List.mem_cons_self, rfl⟩
  · simp [htree.name_eq, hcommit.name_eq, harchive.name_eq, buildName]
  · simp [htree.build_eq, hcommit.build_eq, harchive.build_eq]
  · simp [htree.takes_eq]
  · intro i hi
    rcases htakes i (hcommit.takes_eq ▸ hi) with rfl | ⟨ref, rfl⟩
    · exact ⟨os, by simp, htree.name_eq⟩
    · trivial
  · rw [harchive.takes_eq]
    exact List.forall_mem_singleton.2 ⟨commit, by simp, hcommit.name_eq⟩

theorem wellFormed_commitContainerManifest (h : commitContainerManifest c = .ok m) :
    WellFormed c.target m := by
  obtain ⟨commit, sources, ref, os, hc, -, hos, rfl⟩ := commitContainerManifest_eq_ok.1 h
  have htree := osPipeline_builtAs hos
  obtain ⟨takes, hcommit, htakes⟩ := commitPipeline_builtAs hc
  refine wellFormed_of_linked [os, commit, _, _] ?_ ?_ ⟨?_, ?_, ?_, ?_, trivial⟩
    ⟨_, rfl, _, List.mem_cons_self, rfl⟩
  · simp [htree.name_eq, hcommit.name_eq, Context.pipeline, Context.plainPipeline, buildName]
  · simp [htree.build_eq, hcommit.build_eq, Context.pipeline, Context.plainPipeline]
  · simp [htree.takes_eq]
  · intro i hi
    rcases htakes i (hcommit.takes_eq ▸ hi) with rfl | ⟨ref, rfl⟩
    · exact ⟨os, by simp, htree.name_eq⟩
    · trivial
  · exact List.forall_mem_singleton.2 ⟨commit, by simp, hcommit.name_eq⟩
  · exact List.forall_mem_singleton.2 ⟨_, List.mem_append_right _ List.mem_cons_self, rfl⟩

theorem wellFormed_imageInstallerManifest (h : imageInstallerManifest c = .ok m) :
    WellFormed c.target m := by
  obtain ⟨kickstart, os, hk, hos, rfl⟩ := imageInstallerManifest_eq_ok.1 h
  have htree := osPipeline_builtAs hos
  have hanaconda := anacondaPipeline_builtAs (c := c) false
  have hefi := efibootPipeline_builtAs (c := c) (installerKernelOptions c)
  have hiso := isoTreePipeline_builtAs (c := c) "anaconda-tree"
    [tarStage "os" "liveimg.tar.gz", kickstart]
  have hextra : takesOf [tarStage "os" "liveimg.tar.gz", kickstart] = [.tree "os"] := by
    simp [inputs_kickstartStage hk, tarStage]
  obtain ⟨himage, hw⟩ := isoPipeline_builtAs (c := c)
  refine wellFormed_of_linked [_, os, _, _, _] ?_ ?_ ?_ ⟨_, rfl, hw⟩
  · simp [hanaconda.name_eq, htree.name_eq, hefi.name_eq, hiso.name_eq, himage.name_eq, buildName]
  · simp [hanaconda.build_eq, htree.build_eq, hefi.build_eq, hiso.build_eq, himage.build_eq]
  · simp [Linked, hanaconda.takes_eq, htree.takes_eq, hefi.takes_eq, hiso.takes_eq,
      himage.takes_eq, hextra, Input.Backed, hanaconda.name_eq, htree.name_eq, hefi.name_eq,
      hiso.name_eq]

theorem wellFormed_liveInstallerManifest : WellFormed c.target (liveInstallerManifest c) := by
  have hanaconda := anacondaPipeline_builtAs (c := c) true
  have hefi := efibootPipeline_builtAs (c := c) (liveKernelOptions c)
  have hiso := isoTreePipeline_builtAs (c := c) "anaconda-tree" []
  obtain ⟨himage, hw⟩ := isoPipeline_builtAs (c := c)
  refine wellFormed_of_linked [_, _, _, _] ?_ ?_ ?_ ⟨_, rfl, hw⟩
  · simp [hanaconda.name_eq, hefi.name_eq, hiso.name_eq, himage.name_eq, buildName]
  · simp [hanaconda.build_eq, hefi.build_eq, hiso.build_eq, himage.build_eq]
  · simp [Linked, hanaconda.takes_eq, hefi.takes_eq, hiso.takes_eq, himage.takes_eq,
      Input.Backed, hanaconda.name_eq, hefi.name_eq, hiso.name_eq]

theorem wellFormed_commitInstallerManifest (h : commitInstallerManifest c = .ok m) :
    WellFormed c.target m := by
  obtain ⟨ref, kickstart, source, -, hk, -, rfl⟩ := commitInstallerManifest_eq_ok.1 h
  have hanaconda := anacondaPipeline_builtAs (c := c) false
  have hefi := efibootPipeline_builtAs (c := c) (installerKernelOptions c)
  have hiso := isoTreePipeline_builtAs (c := c) "anaconda-tree"
    [initStage "/ostree/repo", pullStage "/ostree/repo" ref, kickstart]
  have hextra : takesOf [initStage "/ostree/repo", pullStage "/ostree/repo" ref, kickstart] =
      [.sourceCommit ref] := by
    simp [inputs_kickstartStage hk, initStage, pullStage]
  obtain ⟨himage, hw⟩ := isoPipeline_builtAs (c := c)
  refine wellFormed_of_linked [_, _, _, _] ?_ ?_ ?_ ⟨_, rfl, hw⟩
  · simp [hanaconda.name_eq, hefi.name_eq, hiso.name_eq, himage.name_eq, buildName]
  · simp [hanaconda.build_eq, hefi.build_eq, hiso.build_eq, himage.build_eq]
  · simp [Linked, hanaconda.takes_eq, hefi.takes_eq, hiso.takes_eq, himage.takes_eq, hextra,
      Input.Backed, hanaconda.name_eq, hefi.name_eq, hiso.name_eq]

theorem wellFormed_simplifiedInstallerManifest (h : simplifiedInstallerManifest c = .ok m) :
    WellFormed c.target m := by
  obtain ⟨kernelOptions, deployment, disk, source, -, hd, hdisk, -, rfl⟩ :=
    simplifiedInstallerManifest_eq_ok.1 h
  obtain ⟨ref, -, hdeployment⟩ := deploymentPipeline_builtAs hd
  obtain ⟨hdisk, hfile⟩ := imagePipeline_builtAs hdisk
  have hxz : Pipeline.BuiltAs (Context.plainPipeline "xz"
      [xzStage "image" "image.raw" "image.raw.xz"]) "xz" [.file "image" "image.raw"] :=
    ⟨rfl, rfl, rfl⟩
  have hcompressed : Pipeline.Writes (Context.plainPipeline "xz"
      [xzStage "image" "image.raw" "image.raw.xz"]) "image.raw.xz" :=
    ⟨_, List.mem_cons_self, rfl⟩
  have hcoreos := coreosPipeline_builtAs (c := c)
  have hefi := efibootPipeline_builtAs (c := c) kernelOptions
  have hiso := isoTreePipeline_builtAs (c := c) "coi-tree" (simplifiedExtraStages c "image.raw.xz")
  obtain ⟨himage, hw⟩ := isoPipeline_builtAs (c := c)
  refine wellFormed_of_linked [deployment, disk, _, _, _, _, _] ?_ ?_ ?_ ⟨_, rfl, hw⟩
  · simp [hdeployment.name_eq, hdisk.name_eq, hxz.name_eq, hcoreos.name_eq, hefi.name_eq,
      hiso.name_eq, himage.name_eq, buildName]
  · simp [hdeployment.build_eq, hdisk.build_eq, hxz.build_eq, hcoreos.build_eq, hefi.build_eq,
      hiso.build_eq, himage.build_eq]
  · simp [Linked, hdeployment.takes_eq, hdisk.takes_eq, hxz.takes_eq, hcoreos.takes_eq,
      hefi.takes_eq, hiso.takes_eq, himage.takes_eq, takesOf_simplifiedExtraStages, Input.Backed,
      hdeployment.name_eq, hdisk.name_eq, hxz.name_eq, hcoreos.name_eq, hefi.name_eq, hiso.name_eq,
      hfile, hcompressed]

/-- What can be assembled is well formed, if the image type has a format that its family exports. -/
theorem wellFormed_assemble
    (hdisk : c.target.family = .disk →
      c.target.imageType.exportFormat ∈ "raw" :: convertedFormats)
    (hostree : c.target.family = .ostreeDisk →
      c.target.imageType.exportFormat ∈ convertedFormats)
    (h : assemble c = .ok m) : WellFormed c.target m := by
  unfold assemble at h
  split at h
  case h_1 hf => exact wellFormed_diskManifest (hdisk hf) h
  case h_2 => exact wellFormed_containerManifest h
  case h_3 => exact wellFormed_commitManifest h
  case h_4 => exact wellFormed_commitContainerManifest h
  case h_5 hf => exact wellFormed_deployedDiskManifest (hostree hf) h
  case h_6 => exact wellFormed_imageInstallerManifest h
  case h_7 => exact Except.ok.inj h ▸ wellFormed_liveInstallerManifest
  case h_8 => exact wellFormed_commitInstallerManifest h
  case h_9 => exact wellFormed_simplifiedInstallerManifest h

end

/-! ## Requests -/

/-- The pipelines of the manifest of a request have different names, one build root, and inputs
that come from pipelines before them; the last one writes the file that is exported. -/
theorem wellFormed_ofRequest {distribution arch name : String} {t : Target} {b : Blueprint}
    {o : Options} {repositories : List Repository} {seed : Int} {m : Manifest} {ws : List Warning}
    (ht : Catalog.Fedora.registry.get distribution arch name = .ok t)
    (h : ofRequest t b o repositories seed = .ok (m, ws)) : WellFormed t m := by
  obtain ⟨-, hbuild⟩ := ofRequest_eq_ok.1 h
  obtain ⟨table, -, hassemble⟩ := build_eq_ok.1 hbuild
  have hdraft := (Catalog.Fedora.listed_of_get ht).draft
  have hformats : ∀ d ∈ Catalog.Fedora.drafts,
      (d.family = .disk → d.exportFormat ∈ "raw" :: convertedFormats) ∧
        (d.family = .ostreeDisk → d.exportFormat ∈ convertedFormats) := by
    decide
  obtain ⟨hdisk, hostree⟩ := hformats _ hdraft
  exact wellFormed_assemble (c := contextOf t b o repositories table) hdisk hostree hassemble

theorem wellFormed_ofRequest_iotRawImage :
    ∃ t m, Catalog.Fedora.registry.get "fedora-40" "aarch64" "iot-raw-image" = .ok t ∧
      ofRequest t {} { ostree := some { url := "https://example.com/repo" } } [] 7 =
        .ok (m, []) ∧ WellFormed t m := by
  obtain ⟨t, m, ht, -, h⟩ := ofRequest_iotRawImage
  exact ⟨t, m, ht, h, wellFormed_ofRequest ht h⟩

end Imagewright.Manifest
