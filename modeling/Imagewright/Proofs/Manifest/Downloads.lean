import Imagewright.Proofs.Manifest.Commits

/-!
# Packages of a written manifest

An install stage refers to packages by their checksums, and the sources say where each checksum is
downloaded from. The two are written from the same packages in different orders, so that every
reference has a source; of packages that share a checksum the last one counts.

## Main definitions

* `Manifest.downloadItems`, `Manifest.packageReferences`: what a written manifest downloads, and
  what a written stage refers to.
* `Manifest.Stage.WrittenAs`, `Manifest.Pipeline.WrittenAs`: a stage and a pipeline as they are
  written with packages.
* `Manifest.WrittenWith`: a manifest as it is written with the packages of its pipelines.
* `Manifest.entriesFor`, `Manifest.unresolved`: what a mapping has for the pipelines of a manifest,
  and which of them it lacks.

## Main statements

* `Manifest.writtenWith_render`: references and downloads of a written manifest.
* `Manifest.serialize_outcome`: a manifest is written, or the pipelines without packages are told.
-/
namespace Imagewright

namespace Value

/-- The items of a field, none if it is absent or no list. -/
def listedAt (v : Value) (key : String) : List Value := ((v.at? key).map (·.listed)).getD []

theorem at?_obj (fields : List (String × Value)) (key : String) :
    (Value.obj fields).at? key = Assoc.get? fields key := rfl

end Value

namespace Manifest

variable {m : Manifest} {r r' : Resolution} {specs : List PackageSpec}

/-! ## What is written -/

/-- The downloads among the sources of a written manifest, by their checksums. -/
def downloadItems (written : Value) : Assoc String Value :=
  ((((written.at? "sources").bind (·.at? "org.osbuild.curl")).bind (·.at? "items")).map
    (·.fields)).getD []

/-- The packages that a written stage refers to. -/
def packageReferences (stage : Value) : List Value :=
  (((stage.at? "inputs").bind (·.at? "packages")).map (·.listedAt "references")).getD []

/-- A written reference is to a package, and it is marked exactly if the signature of the package is
to be checked. -/
structure RefersTo (p : PackageSpec) (reference : Value) : Prop where
  id : reference.at? "id" = some (.str p.checksum)
  mark : ((reference.at? "options").bind (·.at? "metadata")).bind (·.at? "rpm.check_gpg") =
    if p.checkGpg.truthy then some (.bool true) else none

/-- A stage as it is written with packages: an install stage refers to them in their order, and
nothing else about it changes; any other stage stays as it is. -/
structure Stage.WrittenAs (specs : List PackageSpec) (s : Stage) (written : Value) : Prop where
  installs : s.installs = true →
    List.Forall₂ RefersTo specs (packageReferences written) ∧
      ∀ key, key ≠ "inputs" → written.at? key = s.render.at? key
  other : s.installs = false → written = s.render

structure Pipeline.WrittenAs (specs : List PackageSpec) (p : Pipeline) (written : Value) :
    Prop where
  name : written.at? "name" = some (.str p.name)
  stages : List.Forall₂ (Stage.WrittenAs specs) p.stages (written.listedAt "stages")

/-- A download is that of a package. -/
structure Downloads (p : PackageSpec) (item : Value) : Prop where
  url : item.at? "url" = some p.remoteLocation
  insecure : item.at? "insecure" = if p.ignoreSsl.truthy then some (.bool true) else none

/-- The packages of all pipelines, in their order. -/
def allSpecs (m : Manifest) (r : Resolution) : List PackageSpec := m.pipelines.flatMap (specsOf r)

/-- A manifest as it is written with the packages of its pipelines. -/
structure WrittenWith (m : Manifest) (r : Resolution) (written : Value) : Prop where
  pipelines : List.Forall₂ (fun p w => p.WrittenAs (specsOf r p) w) m.pipelines
    (written.listedAt "pipelines")
  /-- What is downloaded are the packages of the pipelines, each checksum once. -/
  keys : ∀ checksum, checksum ∈ (downloadItems written).keys ↔
    ∃ p ∈ m.allSpecs r, p.checksum = checksum
  nodup : (downloadItems written).keys.Nodup
  /-- The last package of a checksum says where it is. -/
  items : ∀ checksum item, (downloadItems written).get? checksum = some item →
    ∃ p, Assoc.lastNamed? (·.checksum) (m.allSpecs r) checksum = some p ∧ Downloads p item
  /-- Every reference has a source. -/
  closed : ∀ w ∈ written.listedAt "pipelines", ∀ s ∈ w.listedAt "stages",
    s.at? "type" = some (.str Stage.installType) → ∀ reference ∈ packageReferences s,
      ∃ checksum ∈ (downloadItems written).keys, reference.at? "id" = some (.str checksum)

/-! ## Stages -/

theorem refersTo_render (p : PackageSpec) : RefersTo p (PackageReference.of p).render := by
  refine ⟨rfl, ?_⟩
  rw [PackageReference.render, PackageReference.of]
  cases p.checkGpg.truthy <;> rfl

/-- Of a written stage, only the section of inputs depends on the inputs. -/
theorem at?_render_withInputs (s : Stage) (inputs : List (String × Input)) {key : String}
    (hkey : key ≠ "inputs") : ({ s with inputs } : Stage).render.at? key = s.render.at? key := by
  have hsection : ∀ fields, Assoc.get? (Stage.section_ "inputs" fields) key = none := by
    intro fields
    unfold Stage.section_
    split <;> simp [Assoc.get?, Ne.symm hkey]
  simp only [Stage.render, Value.at?_obj, List.append_assoc, Assoc.get?_append, hsection]

theorem packageReferences_render {s : Stage} {references : List PackageReference}
    (h : s.inputs = [("packages", .packages references)]) :
    packageReferences s.render = references.map PackageReference.render := by
  have hinputs : s.render.at? "inputs" =
      some (.obj [("packages", (Input.packages references).render)]) := by
    simp [Stage.render, Value.at?_obj, Stage.section_, Assoc.get?, h]
  rw [packageReferences, hinputs]
  rfl

theorem at?_type_render (s : Stage) : s.render.at? "type" = some (.str s.type) := rfl

theorem writtenAs_withPackages (specs : List PackageSpec) (s : Stage) :
    s.WrittenAs specs (s.withPackages specs).render := by
  unfold Stage.withPackages
  split
  · next hs =>
    refine ⟨fun _ => ⟨?_, fun key hkey => at?_render_withInputs s _ hkey⟩, by simp [hs]⟩
    rw [packageReferences_render rfl, List.map_map, List.forall₂_map_right_iff,
      List.forall₂_same]
    exact fun p _ => refersTo_render p
  · next hs => exact ⟨by simp [hs], fun _ => rfl⟩

/-! ## Pipelines and sources -/

theorem stages_render (p : Pipeline) (specs : List PackageSpec) :
    (p.render specs).listedAt "stages" = p.stages.map fun s => (s.withPackages specs).render := by
  have hfield : ∀ key given, key ≠ "stages" → Assoc.get? (textField key given) "stages" = none := by
    intro key given hkey
    unfold textField
    split
    · split <;> simp [Assoc.get?, hkey]
    · rfl
  simp [Pipeline.render, Value.listedAt, Value.at?_obj, Assoc.get?_append, hfield, Assoc.get?,
    Value.listed]

theorem writtenAs_render (p : Pipeline) (specs : List PackageSpec) :
    p.WrittenAs specs (p.render specs) := by
  refine ⟨rfl, ?_⟩
  rw [stages_render, List.forall₂_map_right_iff, List.forall₂_same]
  exact fun s _ => writtenAs_withPackages specs s

theorem downloadItems_render (m : Manifest) (r : Resolution) :
    downloadItems (m.render r) = m.downloads r := by
  have hsources : ((m.render r).at? "sources") = some (.obj
    (sourceItems "curl" (m.downloads r) ++ sourceItems "ostree" m.commits)) := rfl
  rw [downloadItems, hsources]
  unfold sourceItems
  cases m.downloads r with
  | nil => cases m.commits <;> rfl
  | cons => rfl

theorem downloads_download (p : PackageSpec) : Downloads p (download p) := by
  refine ⟨rfl, ?_⟩
  unfold download
  cases p.ignoreSsl.truthy <;> rfl

theorem downloads_eq (m : Manifest) (r : Resolution) :
    m.downloads r = Assoc.ofList ((m.allSpecs r).map fun p => (p.checksum, download p)) := rfl

theorem mem_keys_downloads {checksum : String} :
    checksum ∈ (m.downloads r).keys ↔ ∃ p ∈ m.allSpecs r, p.checksum = checksum := by
  rw [downloads_eq, Assoc.mem_keys_ofList, List.map_map, List.mem_map]
  rfl

theorem get?_downloads (checksum : String) : (m.downloads r).get? checksum =
    (Assoc.lastNamed? (·.checksum) (m.allSpecs r) checksum).map download := by
  rw [downloads_eq, Assoc.get?_ofList]
  exact Assoc.last?_map _ _ _ _

/-- A written install stage refers to the packages of its pipeline only. -/
theorem exists_refersTo {p : Pipeline} {w s reference : Value} (hw : p.WrittenAs specs w)
    (hs : s ∈ w.listedAt "stages") (htype : s.at? "type" = some (.str Stage.installType))
    (hreference : reference ∈ packageReferences s) : ∃ q ∈ specs, RefersTo q reference := by
  obtain ⟨stage, -, hstage⟩ := Outcome.exists_of_mem_forall₂ hw.stages hs
  cases hinstalls : stage.installs with
  | true => exact Outcome.exists_of_mem_forall₂ (hstage.installs hinstalls).1 hreference
  | false =>
    -- a stage of another type is written with that type
    rw [hstage.other hinstalls, at?_type_render] at htype
    have hsame : stage.type = Stage.installType := Value.str.inj (Option.some.inj htype)
    rw [Stage.installs, hsame, beq_self_eq_true] at hinstalls
    cases hinstalls

/-- References and downloads of a written manifest are those of the packages of its pipelines. -/
theorem writtenWith_render (m : Manifest) (r : Resolution) : m.WrittenWith r (m.render r) := by
  have hpipelines : (m.render r).listedAt "pipelines" =
      m.pipelines.map fun p => p.render (specsOf r p) := rfl
  refine ⟨?_, ?_, ?_, ?_, ?_⟩
  · rw [hpipelines, List.forall₂_map_right_iff, List.forall₂_same]
    exact fun p _ => writtenAs_render p _
  · rw [downloadItems_render]
    exact fun checksum => mem_keys_downloads
  · rw [downloadItems_render]
    exact Assoc.nodup_keys_ofList _
  · intro checksum item hitem
    rw [downloadItems_render, get?_downloads] at hitem
    obtain ⟨p, hp, rfl⟩ := Option.map_eq_some_iff.1 hitem
    exact ⟨p, hp, downloads_download p⟩
  · rw [hpipelines, downloadItems_render]
    intro w hw s hs htype reference hreference
    obtain ⟨p, hp, rfl⟩ := List.mem_map.1 hw
    obtain ⟨q, hq, hrefers⟩ := exists_refersTo (writtenAs_render p _) hs htype hreference
    exact ⟨q.checksum, mem_keys_downloads.2 ⟨q, List.mem_flatMap.2 ⟨p, hp, hq⟩, rfl⟩, hrefers.id⟩

/-! ## What counts of a mapping -/

/-- The entries of a mapping for the pipelines of a manifest. -/
def entriesFor (m : Manifest) (r : Resolution) : Resolution :=
  r.filter fun e => m.pipelineNames.contains e.1

/-- Mappings whose entries for the pipelines of a manifest are the same in any order give these
pipelines the same packages. -/
theorem get?_eq_of_perm (hr : r.keys.Nodup) (hr' : r'.keys.Nodup)
    (h : (m.entriesFor r).Perm (m.entriesFor r')) :
    ∀ p ∈ m.pipelines, r.get? p.name = r'.get? p.name := by
  intro p hp
  have hname : m.pipelineNames.contains p.name = true :=
    List.contains_iff_mem.2 (List.mem_map_of_mem hp)
  exact Assoc.get?_eq_of_perm_filter hr hr' h hname

theorem missing_congr (h : ∀ p ∈ m.pipelines, r.get? p.name = r'.get? p.name) :
    m.missing r = m.missing r' := by
  unfold missing
  congr 1
  exact List.filter_congr fun p hp => by rw [Assoc.contains, Assoc.contains, h p hp]

/-- A manifest is written with what its pipelines have, and nothing else. -/
theorem serialize_congr (h : ∀ p ∈ m.pipelines, r.get? p.name = r'.get? p.name) :
    m.serialize r = m.serialize r' := by
  simp only [serialize, missing_congr h, render_congr h]

/-- The pipelines that have package sets and are not in a mapping, in their order. -/
def unresolved (m : Manifest) (r : Resolution) : List String :=
  (m.pipelines.filter fun p => p.chain ≠ [] ∧ p.name ∉ r.keys).map (·.name)

theorem missing_eq_unresolved (m : Manifest) (r : Resolution) : m.missing r = m.unresolved r := by
  unfold missing unresolved
  congr 1
  exact List.filter_congr fun p _ => by cases p.chain <;> simp [← Assoc.contains_iff]

theorem serialize_eq_error {names : List String} :
    m.serialize r = .error ⟨names⟩ ↔ names ≠ [] ∧ names = m.unresolved r := by
  rw [serialize, missing_eq_unresolved]
  cases m.unresolved r <;> grind

/-- The pipelines with package sets that are missing in a mapping are told. If none is, the manifest
is written, and its references and downloads are those of the packages of its pipelines. Other
entries of a mapping and their order do not count. -/
theorem serialize_outcome (m : Manifest) (r : Resolution) :
    (∀ names, m.serialize r = .error ⟨names⟩ ↔ names ≠ [] ∧ names = m.unresolved r) ∧
    (m.unresolved r = [] → ∃ written, m.serialize r = .ok written ∧ m.WrittenWith r written) ∧
    ∀ r' : Resolution, r.keys.Nodup → r'.keys.Nodup → (m.entriesFor r).Perm (m.entriesFor r') →
      m.serialize r = m.serialize r' ∧ m.toJson r = m.toJson r' := by
  refine ⟨fun names => serialize_eq_error, fun h => ?_, fun r' hr hr' hperm => ?_⟩
  · have hmissing : (m.missing r).isEmpty = true := by rw [missing_eq_unresolved, h]; rfl
    exact ⟨m.render r, if_pos hmissing, writtenWith_render m r⟩
  · have hsame := serialize_congr (get?_eq_of_perm hr hr' hperm)
    exact ⟨hsame, by rw [toJson, toJson, hsame]⟩

def packageAt (url : String) : PackageSpec where
  name := "bash"
  epoch := .int 0
  version := "5.2"
  release := "1.fc38"
  arch := "x86_64"
  remoteLocation := url
  checksum := "sha256:aa"
  checkGpg := .bool true
  ignoreSsl := .bool false
  name_truthy := rfl
  checksum_ok := by decide

/-- Two pipelines that install something. -/
def buildAndTree : Manifest where
  pipelines := ["build", "os"].map fun name => {
    name, stages := [{ type := Stage.installType }], chain := [.ofNames ["bash"]] }

/-- The package of both pipelines has one checksum and two places. A third pipeline is not in the
manifest, and the two may have been resolved in either order. -/
theorem serialize_outcome_shared :
    let tree := ("os", [packageAt "https://two"])
    let root := ("build", [packageAt "https://one"])
    let other := ("container", [packageAt "https://three"])
    let r : Resolution := [root, tree]
    let r' : Resolution := [other, tree, root]
    r.keys.Nodup ∧ r'.keys.Nodup ∧ (buildAndTree.entriesFor r).Perm (buildAndTree.entriesFor r') ∧
      buildAndTree.unresolved r = [] ∧ (∃ written, buildAndTree.serialize r = .ok written ∧
        buildAndTree.WrittenWith r written) ∧
      buildAndTree.serialize r = buildAndTree.serialize r' := by
  intro tree root other r r'
  have hr : r.keys.Nodup := by decide
  have hr' : r'.keys.Nodup := by decide
  have hperm : (buildAndTree.entriesFor r).Perm (buildAndTree.entriesFor r') := .swap tree root []
  have hnone : buildAndTree.unresolved r = [] := by decide
  obtain ⟨-, hwritten, hsame⟩ := serialize_outcome buildAndTree r
  exact ⟨hr, hr', hperm, hnone, hwritten hnone, (hsame r' hr hr' hperm).1⟩

end Manifest
end Imagewright
