import Imagewright.Proofs.Manifest.Serialization
import Imagewright.Proofs.Manifest.Shapes

/-!
# Commits and their refs

The ref of a commit is worked out wherever a stage needs it. All places agree: what is pulled is
among the sources, what is among the sources is pulled, and what is deployed is what was pulled.

## Main definitions

* `Manifest.ostreeItems`: the commits among the sources of a written manifest.
* `Manifest.Input.TakesCommit`, `Manifest.Input.references`: an input is a commit from some place.
* `Manifest.Stage.mentions`: the refs that a stage mentions.
* `Manifest.CommitsAgree`: all stages of a manifest agree on its commits.

## Main statements

* `Manifest.Input.Settled.references_source`, `Manifest.Input.Settled.references_pipeline`: what a
  settled input refers to.
* `Manifest.commitsAgree_ofRequest`: the stages of a request agree on its commits.
-/
namespace Imagewright

def Value.fields : Value → List (String × Value)
  | .obj fields => fields
  | _ => []

namespace Manifest

open Catalog (Target)
open Context (plainPipeline)
open Request (Options Warning)

/-- The commits among the sources of a written manifest, by their refs. -/
def ostreeItems (written : Value) : Assoc String Value :=
  ((((written.at? "sources").bind (·.at? "org.osbuild.ostree")).bind (·.at? "items")).map
    (·.fields)).getD []

/-- The input is a commit from the sources or from a pipeline. -/
def Input.TakesCommit (origin : String) (i : Input) : Prop :=
  i.render.at? "type" = some (.str "org.osbuild.ostree") ∧
    i.render.at? "origin" = some (.str ("org.osbuild." ++ origin))

def Input.references (i : Input) : List (String × Value) :=
  ((i.render.at? "references").map (·.fields)).getD []

/-- The types of the stages that mention the ref of a commit. -/
def refTypes : List String :=
  moduleTypes ["ostree.pull", "ostree.deploy", "ostree.fillvar", "ostree.selinux", "kickstart"]

/-- The refs that a stage mentions, in its options and for its inputs. -/
def Stage.mentions (s : Stage) : List Value :=
  (s.option? "ref").toList ++
    (["deployment", "ostree"].filterMap fun part => (s.option? part).bind (·.at? "ref")) ++
    s.inputs.flatMap fun i =>
      i.2.references.flatMap fun r => Value.str r.1 :: (r.2.at? "ref").toList

/-- A stage of a pipeline pulls a commit of the sources. -/
def Pipeline.Pulls (p : Pipeline) (ref : String) : Prop :=
  ∃ s ∈ stagesOf "ostree.pull" p.stages, ∃ i ∈ s.inputs, i.2.TakesCommit "source" ∧
    ref ∈ i.2.references.map (·.1)

/-- Of some stages those that can mention a ref do so, and mention this one only. -/
def Mention (ref : String) (ss : List Stage) : Prop :=
  ∀ s ∈ ss, s.type ∈ refTypes → s.mentions ≠ [] ∧ ∀ v ∈ s.mentions, v = .str ref

/-- All stages of a manifest agree on its commits. -/
structure CommitsAgree (t : Target) (o : Options) (m : Manifest) : Prop where
  /-- What is taken from the sources is there. -/
  closed : ∀ p ∈ m.pipelines, ∀ s ∈ p.stages, ∀ i ∈ s.inputs, i.2.TakesCommit "source" →
    i.2.references ≠ [] ∧ ∀ ref v, (ref, v) ∈ i.2.references → v = .obj [("ref", .str ref)] ∧
      ∀ r nullName, ref ∈ (ostreeItems (m.render r nullName)).keys
  /-- What is among the sources is pulled. -/
  pulled : ∀ source ∈ m.ostreeSources, ∃ p ∈ m.pipelines, p.Pulls source.ref
  /-- It comes from the place that is asked for. -/
  remote : ∀ source ∈ m.ostreeSources, ∃ given, o.ostree = some given ∧
    given.url.truthy = true ∧ (source.render.at? "remote").bind (·.at? "url") = some given.url
  /-- What is taken from the pipeline of a commit is what is committed there. -/
  committed : ∀ p ∈ m.pipelines, ∀ s ∈ p.stages, ∀ i ∈ s.inputs, i.2.TakesCommit "pipeline" →
    ∃ q commit ref, m.pipeline? "ostree-commit" = some q ∧
      stagesOf "ostree.commit" q.stages = [commit] ∧ commit.option? "ref" = some (.str ref) ∧
      i.2.references = [("name:ostree-commit", .obj [("ref", .str ref)])]
  /-- An image from a commit has one source, which all its stages speak of. -/
  consumed : t.family.takesCommit = true → ∃ source given, m.ostreeSources = [source] ∧
    o.ostree = some given ∧
    (if given.ref = "" then t.ostreeRef = .ok source.ref else source.ref = given.ref) ∧
    ∀ p ∈ m.pipelines, Mention source.ref p.stages

/-! ## Inputs -/

/-- The input refers to one of some commits of the sources or to the commit that is written in the
manifest, or to no commit. -/
def Input.Settled (refs : List String) (written : Option String) : Input → Prop
  | .tree _ | .file _ _ | .packages _ => True
  | .sourceCommit ref => ref ∈ refs
  | .pipelineCommit pipeline ref => pipeline = "ostree-commit" ∧ written = some ref
  | .other _ => False

section

variable {refs : List String} {written : Option String} {i : Input}

@[simp] theorem Input.settled_tree {pipeline : String} :
    (Input.tree pipeline).Settled refs written := trivial

@[simp] theorem Input.settled_file {pipeline filename : String} :
    (Input.file pipeline filename).Settled refs written := trivial

@[simp] theorem Input.settled_sourceCommit {ref : String} :
    (Input.sourceCommit ref).Settled refs written ↔ ref ∈ refs := .rfl

theorem Input.Settled.references_source (h : i.Settled refs written)
    (hi : i.TakesCommit "source") :
    ∃ ref ∈ refs, i.references = [(ref, .obj [("ref", .str ref)])] := by
  cases i with
  | sourceCommit ref => exact ⟨ref, h, rfl⟩
  | other => cases h
  | _ => simp [TakesCommit, render, entry, Value.at?, Assoc.get?] at hi

theorem Input.Settled.references_pipeline (h : i.Settled refs written)
    (hi : i.TakesCommit "pipeline") :
    ∃ ref, written = some ref ∧
      i.references = [("name:ostree-commit", .obj [("ref", .str ref)])] := by
  cases i with
  | pipelineCommit pipeline ref =>
    obtain ⟨rfl, hwritten⟩ := h
    exact ⟨ref, hwritten, rfl⟩
  | other => cases h
  | _ => simp [TakesCommit, render, entry, Value.at?, Assoc.get?] at hi

end

/-! ## Sources -/

theorem ostreeItems_render (m : Manifest) (r : Resolution) (nullName : String) :
    ostreeItems (m.render r nullName) = m.commits := by
  have hsources : ((m.render r nullName).at? "sources") = some (.obj
    (sourceItems "curl" (m.downloads r) ++ sourceItems "ostree" m.commits)) := rfl
  rw [ostreeItems, hsources]
  unfold sourceItems
  cases m.downloads r with
  | nil => cases m.commits <;> rfl
  | cons => cases m.commits <;> rfl

theorem mem_ostreeItems_render {m : Manifest} {ref : String} {r : Resolution} {nullName : String} :
    ref ∈ (ostreeItems (m.render r nullName)).keys ↔ ref ∈ m.ostreeSources.map (·.ref) := by
  rw [ostreeItems_render, commits, Assoc.mem_keys_ofList, List.map_map]
  rfl

/-- Settled inputs are closed, and with that the stages of a manifest agree as soon as its sources
are pulled from the right place. -/
theorem commitsAgree_of_settled {t : Target} {o : Options} {m : Manifest} (written : Option String)
    (hsettled : ∀ p ∈ m.pipelines, ∀ i ∈ p.takes, i.Settled (m.ostreeSources.map (·.ref)) written)
    (hwritten : ∀ ref, written = some ref → ∃ q commit, m.pipeline? "ostree-commit" = some q ∧
      stagesOf "ostree.commit" q.stages = [commit] ∧ commit.option? "ref" = some (.str ref))
    (hpulled : ∀ source ∈ m.ostreeSources, ∃ p ∈ m.pipelines, p.Pulls source.ref)
    (hremote : ∀ source ∈ m.ostreeSources, ∃ given, o.ostree = some given ∧
      given.url.truthy = true ∧ source.url = given.url)
    (hconsumed : t.family.takesCommit = true → ∃ source given, m.ostreeSources = [source] ∧
      o.ostree = some given ∧
      (if given.ref = "" then t.ostreeRef = .ok source.ref else source.ref = given.ref) ∧
      ∀ p ∈ m.pipelines, Mention source.ref p.stages) : CommitsAgree t o m := by
  have htaken : ∀ p ∈ m.pipelines, ∀ s ∈ p.stages, ∀ i ∈ s.inputs,
      i.2.Settled (m.ostreeSources.map (·.ref)) written := by
    intro p hp s hs i hi
    exact hsettled p hp _ (List.mem_flatMap.2 ⟨s, hs, List.mem_map_of_mem (f := (·.2)) hi⟩)
  refine ⟨fun p hp s hs i hi hsource => ?_, hpulled, fun source hs => ?_,
    fun p hp s hs i hi hpipeline => ?_, hconsumed⟩
  · obtain ⟨ref, href, heq⟩ := (htaken p hp s hs i hi).references_source hsource
    rw [heq]
    refine ⟨List.cons_ne_nil _ _, fun ref' v hmem => ?_⟩
    obtain ⟨rfl, rfl⟩ := Prod.mk.inj (List.mem_singleton.1 hmem)
    exact ⟨rfl, fun r nullName => mem_ostreeItems_render.2 href⟩
  · obtain ⟨given, hgiven, hurl, heq⟩ := hremote source hs
    exact ⟨given, hgiven, hurl, congrArg some heq⟩
  · obtain ⟨ref, href, heq⟩ := (htaken p hp s hs i hi).references_pipeline hpipeline
    obtain ⟨q, commit, hq, hcommit, hoption⟩ := hwritten ref href
    exact ⟨q, commit, ref, hq, hcommit, hoption, heq⟩

/-! ## Pipelines -/

section

variable {c : Context} {p : Pipeline} {refs : List String} {written : Option String} {ref : String}

theorem takes_buildPipeline : (buildPipeline c).takes = [] := rfl

theorem settled_exportPipelines (source file : String) :
    ∀ p ∈ exportPipelines c source file, ∀ i ∈ p.takes, i.Settled refs written := by
  unfold exportPipelines
  simp only
  split_ifs <;>
    simp [Pipeline.takes, plainPipeline, qemuStage, xzStage]

theorem pulls_of_mem (repository : String) (h : pullStage repository ref ∈ p.stages) :
    p.Pulls ref :=
  ⟨_, List.mem_filter.2 ⟨h, rfl⟩, _, List.mem_cons_self, ⟨rfl, rfl⟩, List.mem_cons_self⟩

theorem Mention.append {ss ts : List Stage} (hs : Mention ref ss) (ht : Mention ref ts) :
    Mention ref (ss ++ ts) := List.forall_mem_append.2 ⟨hs, ht⟩

/-- Stages of other types need not mention anything. -/
theorem OfTypes.mention {types : List String} {ss : List Stage} (h : OfTypes types ss)
    (ht : ∀ type ∈ types, type ∉ refTypes) : Mention ref ss :=
  fun s hs htype => absurd htype (ht _ (h s hs))

/-- The mentions of stages that are written out are read off them. -/
theorem mention_of_map {ss : List Stage} (mentions : List (List Value))
    (h : (ss.filter fun s => refTypes.contains s.type).map (·.mentions) = mentions)
    (hm : ∀ vs ∈ mentions, vs ≠ [] ∧ ∀ v ∈ vs, v = .str ref) : Mention ref ss := by
  intro s hs htype
  have hmem : s ∈ ss.filter fun s => refTypes.contains s.type :=
    List.mem_filter.2 ⟨hs, List.contains_iff_mem.2 htype⟩
  exact hm _ (h ▸ List.mem_map_of_mem hmem)

theorem Shape.Describes.mention {s : Shape} (h : s.Describes c p)
    (hs : ∀ type ∈ s.types, type ∉ refTypes) (ref : String) : Mention ref p.stages := by
  obtain ⟨rest, hrest, hstages⟩ := h.stages_eq
  have hinstall : Mention ref
      (if s.installs then [installStage (c.repositoriesFor s.name)] else []) := by
    split
    · exact mention_of_map [] rfl (by simp)
    · exact mention_of_map [] rfl (by simp)
  rw [hstages]
  exact hinstall.append (hrest.mention hs)

theorem mention_exportPipelines (source file : String) :
    ∀ p ∈ exportPipelines c source file, Mention ref p.stages := by
  have hquiet : ∀ shapes ∈ exportShapes, ∀ s ∈ shapes, ∀ type ∈ s.types, type ∉ refTypes := by
    decide
  obtain ⟨shapes, hshapes, hshaped⟩ := shaped_exportPipelines c source file
  intro p hp
  obtain ⟨s, hs, hd⟩ := hshaped.exists_shape hp
  exact hd.mention (hquiet shapes hshapes s hs) ref

theorem deploymentPipeline_commit (h : deploymentPipeline c = .ok p)
    (href : c.ostreeRef = .ok ref) : p.Pulls ref ∧ Mention ref p.stages := by
  obtain ⟨ref', remoteUrl, kernelOptions, between, href', hbetween, rfl⟩ :=
    deploymentPipeline_stages h
  obtain rfl : ref' = ref := Except.ok.inj (href'.symm.trans href)
  have hdeploy : Mention ref' (deployStages ref' remoteUrl kernelOptions) :=
    mention_of_map [[.str ref', .str ref'], [.str ref'], [.str ref']] rfl (by simp)
  have hselinux : Mention ref' [stage "ostree.selinux" [
      ("deployment", .obj [("osname", .str deploymentName), ("ref", .str ref')])]] :=
    mention_of_map [[.str ref']] rfl (by simp)
  refine ⟨pulls_of_mem "/ostree/repo" ?_,
    (hdeploy.append (hbetween.mention (by decide))).append hselinux⟩
  exact List.mem_append_left _ (List.mem_append_left _ (List.mem_cons_of_mem _ List.mem_cons_self))

/-- What a commit takes from the sources is its parent, which comes from the place that is asked
for. -/
theorem commitPipeline_commit {sources : List OstreeSource}
    (h : commitPipeline c = .ok (p, sources)) (href : c.ostreeRef = .ok ref) :
    p.name = "ostree-commit" ∧
      (∃ commit, stagesOf "ostree.commit" p.stages = [commit] ∧
        commit.option? "ref" = some (.str ref)) ∧
      (∀ i ∈ p.takes, i.Settled (sources.map (·.ref)) written) ∧
      ∀ source ∈ sources, p.Pulls source.ref ∧ ∃ given, c.options.ostree = some given ∧
        given.url.truthy = true ∧ source.url = given.url := by
  obtain ⟨ref', href', hp⟩ := commitPipeline_eq_ok.1 h
  obtain rfl : ref' = ref := Except.ok.inj (href'.symm.trans href)
  simp only at hp
  split at hp
  · obtain ⟨rfl, rfl⟩ := Prod.mk.inj hp
    exact ⟨rfl, ⟨_, rfl, rfl⟩, List.forall_mem_singleton.2 trivial, by simp⟩
  · next o ho =>
    obtain ⟨rfl, rfl⟩ := Prod.mk.inj hp
    obtain ⟨hgiven, hparent⟩ := Option.filter_eq_some_iff.1 ho
    refine ⟨rfl, ⟨_, rfl, rfl⟩, ?_, ?_⟩
    · exact List.forall_mem_cons.2 ⟨List.mem_cons_self, List.forall_mem_singleton.2 trivial⟩
    · refine List.forall_mem_singleton.2 ⟨pulls_of_mem "/repo" ?_, o, hgiven, ?_, rfl⟩
      · exact List.mem_cons_of_mem _ List.mem_cons_self
      · simp only [Bool.and_eq_true] at hparent
        exact hparent.2

end

/-! ## Families -/

section

variable {c : Context} {ps : List Pipeline} {m : Manifest}

theorem commitsAgree_of_none (ht : c.target.family.takesCommit = false)
    (h : ∀ p ∈ ps, ∀ i ∈ p.takes, i.Settled [] none) :
    CommitsAgree c.target c.options { pipelines := ps } :=
  commitsAgree_of_settled none h (by simp) (by simp) (by simp) (by simp [ht])

/-- A commit of a tree, and what is made from it. -/
theorem commitsAgree_of_commit {os commit : Pipeline} {sources : List OstreeSource} {ref : String}
    (ht : c.target.family.takesCommit = false) (href : c.ostreeRef = .ok ref)
    (hos : os.BuiltAs "os" []) (hc : commitPipeline c = .ok (commit, sources))
    (h : ∀ p ∈ ps, ∀ i ∈ p.takes, i.Settled (sources.map (·.ref)) (some ref)) :
    CommitsAgree c.target c.options {
      pipelines := [buildPipeline c, os, commit] ++ ps, ostreeSources := sources } := by
  obtain ⟨hname, ⟨written, hwritten, hoption⟩, htakes, hsources⟩ := commitPipeline_commit hc href
  refine commitsAgree_of_settled (some ref) ?_ ?_ (fun source hs => ?_) (fun source hs => ?_)
    (by simp [ht])
  · simpa [takes_buildPipeline, hos.takes_eq] using ⟨htakes, h⟩
  · intro ref' href'
    obtain rfl := Option.some.inj href'
    refine ⟨commit, written, ?_, hwritten, hoption⟩
    simp [pipeline?, buildPipeline, buildName, hos.name_eq, hname]
  · exact ⟨commit, by simp, (hsources source hs).1⟩
  · exact (hsources source hs).2

/-- An image from a commit of the sources. -/
theorem commitsAgree_of_source {source : OstreeSource} (hs : c.commitSource = .ok source)
    (hurl : c.options.ostreeUrl.truthy = true)
    (hsettled : ∀ p ∈ ps, ∀ i ∈ p.takes, i.Settled [source.ref] none)
    (hpulled : ∃ p ∈ ps, p.Pulls source.ref) (hmention : ∀ p ∈ ps, Mention source.ref p.stages) :
    CommitsAgree c.target c.options { pipelines := ps, ostreeSources := [source] } := by
  obtain ⟨given, ref, hgiven, href, rfl⟩ := commitSource_eq_ok.1 hs
  have htruthy : given.url.truthy = true := by
    rwa [Options.ostreeUrl, hgiven] at hurl
  refine commitsAgree_of_settled none hsettled (by simp) (List.forall_mem_singleton.2 hpulled)
    (List.forall_mem_singleton.2 ⟨given, hgiven, htruthy, rfl⟩) fun _ => ?_
  exact ⟨_, given, rfl, hgiven, (ostreeRef_eq_ok hgiven).1 href, hmention⟩

theorem takes_deploymentPipeline {p : Pipeline} {ref : String} (h : deploymentPipeline c = .ok p)
    (href : c.ostreeRef = .ok ref) : p.takes = [.sourceCommit ref] := by
  obtain ⟨ref', href', hbuilt⟩ := deploymentPipeline_builtAs h
  obtain rfl : ref' = ref := Except.ok.inj (href'.symm.trans href)
  exact hbuilt.takes_eq

theorem commitsAgree_commitContainerManifest (ht : c.target.family.takesCommit = false)
    (h : commitContainerManifest c = .ok m) : CommitsAgree c.target c.options m := by
  obtain ⟨commit, sources, ref, os, hc, href, hos, rfl⟩ := commitContainerManifest_eq_ok.1 h
  refine commitsAgree_of_commit ht href (osPipeline_builtAs hos) hc ?_
  have hserved : ∀ i ∈ takesOf [
      installStage (c.repositoriesFor "container-tree"), selinuxStage, initStage servedRepository,
      pullFromStage servedRepository "ostree-commit" ref,
      stage "nginxconf" [("path", "/etc/nginx.conf"), ("config", .obj [("listen", "8080")])]],
      i.Settled (sources.map (·.ref)) (some ref) := List.forall_mem_singleton.2 ⟨rfl, rfl⟩
  exact List.forall_mem_cons.2
    ⟨hserved, List.forall_mem_singleton.2 (List.forall_mem_singleton.2 trivial)⟩

theorem commitsAgree_deployedDiskManifest (hurl : c.options.ostreeUrl.truthy = true)
    (h : deployedDiskManifest c = .ok m) : CommitsAgree c.target c.options m := by
  obtain ⟨deployment, image, source, hd, himage, hs, rfl⟩ := deployedDiskManifest_eq_ok.1 h
  obtain ⟨_, ref, -, href, hsource⟩ := commitSource_eq_ok.1 hs
  obtain rfl : ref = source.ref := by rw [← hsource]
  obtain ⟨hpulls, hmention⟩ := deploymentPipeline_commit hd href
  refine commitsAgree_of_source hs hurl ?_ ⟨deployment, by simp, hpulls⟩ ?_
  · simpa [takes_buildPipeline, takes_deploymentPipeline hd href,
      (imagePipeline_builtAs himage).1.takes_eq] using
      settled_exportPipelines "image" "image.raw"
  · have hbuild := (describes_buildPipeline c).mention (by decide) source.ref
    have himage := (describes_imagePipeline himage).mention (by decide) source.ref
    simpa [hbuild, hmention, himage] using mention_exportPipelines "image" "image.raw"

/-- The kickstart of an installer and what it installs name one ref. -/
theorem commitsAgree_commitInstallerManifest (hurl : c.options.ostreeUrl.truthy = true)
    (h : commitInstallerManifest c = .ok m) : CommitsAgree c.target c.options m := by
  obtain ⟨ref, kickstart, source, href, hk, hs, rfl⟩ := commitInstallerManifest_eq_ok.1 h
  obtain ⟨_, ref', -, href', hsource⟩ := commitSource_eq_ok.1 hs
  obtain rfl : ref' = ref := Except.ok.inj (href'.symm.trans href)
  obtain rfl : ref' = source.ref := by rw [← hsource]
  have hpulls : (isoTreePipeline c "anaconda-tree" [
      initStage "/ostree/repo", pullStage "/ostree/repo" source.ref, kickstart]).Pulls source.ref :=
    pulls_of_mem "/ostree/repo" (by simp [isoTreePipeline, plainPipeline])
  have htree : Mention source.ref (isoTreePipeline c "anaconda-tree" [
      initStage "/ostree/repo", pullStage "/ostree/repo" source.ref, kickstart]).stages := by
    obtain ⟨users, -, rfl⟩ := kickstartStage_eq_ok.1 hk
    -- the groups of the kickstart stand behind the options that are looked up
    split_ifs
    · exact mention_of_map [[.str source.ref, .str source.ref], [.str source.ref]] rfl (by simp)
    · exact mention_of_map [[.str source.ref, .str source.ref], [.str source.ref]] rfl (by simp)
  refine commitsAgree_of_source hs hurl ?_ ⟨_, by simp, hpulls⟩ ?_
  · simp [takes_buildPipeline, (anacondaPipeline_builtAs false).takes_eq,
      (efibootPipeline_builtAs _).takes_eq, (isoTreePipeline_builtAs _ _).takes_eq,
      isoPipeline_builtAs.1.takes_eq, inputs_kickstartStage hk, initStage, pullStage]
  · have hbuild := (describes_buildPipeline c).mention (by decide) source.ref
    have hanaconda := (describes_anacondaPipeline c false).mention (by decide) source.ref
    have hefi := (describes_efibootPipeline c (installerKernelOptions c)).mention (by decide)
      source.ref
    have hiso := (describes_isoPipeline c).mention (by decide) source.ref
    simp [hbuild, hanaconda, hefi, htree, hiso]

theorem commitsAgree_simplifiedInstallerManifest (hurl : c.options.ostreeUrl.truthy = true)
    (h : simplifiedInstallerManifest c = .ok m) : CommitsAgree c.target c.options m := by
  obtain ⟨kernelOptions, deployment, image, source, -, hd, himage, hs, rfl⟩ :=
    simplifiedInstallerManifest_eq_ok.1 h
  obtain ⟨_, ref, -, href, hsource⟩ := commitSource_eq_ok.1 hs
  obtain rfl : ref = source.ref := by rw [← hsource]
  obtain ⟨hpulls, hmention⟩ := deploymentPipeline_commit hd href
  have hxz : (plain "xz" ["xz"]).Describes c
      (plainPipeline "xz" [xzStage "image" "image.raw" "image.raw.xz"]) :=
    describes_plain (ofTypes_of_map ["xz"] rfl (by decide))
  have hxz_takes : (plainPipeline "xz" [xzStage "image" "image.raw" "image.raw.xz"]).takes =
      [.file "image" "image.raw"] := rfl
  refine commitsAgree_of_source hs hurl ?_ ⟨deployment, by simp, hpulls⟩ ?_
  · simp [takes_buildPipeline, takes_deploymentPipeline hd href,
      (imagePipeline_builtAs himage).1.takes_eq, hxz_takes, coreosPipeline_builtAs.takes_eq,
      (efibootPipeline_builtAs _).takes_eq, (isoTreePipeline_builtAs _ _).takes_eq,
      takesOf_simplifiedExtraStages, isoPipeline_builtAs.1.takes_eq]
  · have hbuild := (describes_buildPipeline c).mention (by decide) source.ref
    have himage := (describes_imagePipeline himage).mention (by decide) source.ref
    have hxz := hxz.mention (by decide) source.ref
    have hcoreos := (describes_coreosPipeline c).mention (by decide) source.ref
    have hefi := (describes_efibootPipeline c kernelOptions).mention (by decide) source.ref
    have htree := (describes_isoTreePipeline (c := c) "coi-tree" _
      (ofTypes_simplifiedExtraStages c "image.raw.xz")).mention (by decide) source.ref
    have hiso := (describes_isoPipeline c).mention (by decide) source.ref
    simp [hbuild, hmention, himage, hxz, hcoreos, hefi, htree, hiso]

theorem commitsAgree_assemble
    (hurl : c.target.family.takesCommit = true → c.options.ostreeUrl.truthy = true)
    (h : assemble c = .ok m) : CommitsAgree c.target c.options m := by
  unfold assemble at h
  split at h <;> rename_i hf
  case h_1 =>
    obtain ⟨os, image, hos, himage, rfl⟩ := diskManifest_eq_ok.1 h
    refine commitsAgree_of_none (by rw [hf]; rfl) ?_
    simpa [takes_buildPipeline, (osPipeline_builtAs hos).takes_eq,
      (imagePipeline_builtAs himage).1.takes_eq] using
      settled_exportPipelines "image" (diskFile c)
  case h_2 =>
    obtain ⟨os, hos, rfl⟩ := containerManifest_eq_ok.1 h
    refine commitsAgree_of_none (by rw [hf]; rfl) ?_
    split_ifs
    all_goals
      refine List.forall_mem_cons.2 ⟨by simp [takes_buildPipeline], List.forall_mem_cons.2
        ⟨by simp [(osPipeline_builtAs hos).takes_eq], List.forall_mem_singleton.2 ?_⟩⟩
      exact List.forall_mem_singleton.2 trivial
  case h_3 =>
    obtain ⟨commit, sources, os, hc, hos, rfl⟩ := commitManifest_eq_ok.1 h
    obtain ⟨ref, href, -⟩ := commitPipeline_eq_ok.1 hc
    exact commitsAgree_of_commit (by rw [hf]; rfl) href (osPipeline_builtAs hos) hc
      (List.forall_mem_singleton.2 (List.forall_mem_singleton.2 trivial))
  case h_4 => exact commitsAgree_commitContainerManifest (by rw [hf]; rfl) h
  case h_5 => exact commitsAgree_deployedDiskManifest (hurl (by rw [hf]; rfl)) h
  case h_6 =>
    obtain ⟨kickstart, os, hk, hos, rfl⟩ := imageInstallerManifest_eq_ok.1 h
    refine commitsAgree_of_none (by rw [hf]; rfl) ?_
    simp [takes_buildPipeline, (osPipeline_builtAs hos).takes_eq,
      (anacondaPipeline_builtAs false).takes_eq, (efibootPipeline_builtAs _).takes_eq,
      (isoTreePipeline_builtAs _ _).takes_eq, isoPipeline_builtAs.1.takes_eq,
      inputs_kickstartStage hk, tarStage]
  case h_7 =>
    obtain rfl := Except.ok.inj h
    refine commitsAgree_of_none (by rw [hf]; rfl) ?_
    simp [takes_buildPipeline, (anacondaPipeline_builtAs true).takes_eq,
      (efibootPipeline_builtAs _).takes_eq, (isoTreePipeline_builtAs _ _).takes_eq,
      isoPipeline_builtAs.1.takes_eq]
  case h_8 => exact commitsAgree_commitInstallerManifest (hurl (by rw [hf]; rfl)) h
  case h_9 => exact commitsAgree_simplifiedInstallerManifest (hurl (by rw [hf]; rfl)) h

end

/-! ## Requests -/

/-- In the manifest of a request, what is taken from the sources or from the pipeline of a commit
is there, what is among the sources is pulled from the place that is asked for, and an image from a
commit speaks of one ref only. -/
theorem commitsAgree_ofRequest {t : Target} {b : Blueprint} {o : Options}
    {repositories : List Repository} {seed : Int} {m : Manifest} {ws : List Warning}
    (h : ofRequest t b o repositories seed = .ok (m, ws)) : CommitsAgree t o m := by
  obtain ⟨hvalid, hbuild⟩ := ofRequest_eq_ok.1 h
  obtain ⟨table, -, hassemble⟩ := build_eq_ok.1 hbuild
  have haccepted := (Request.validate_eq_ok.1 hvalid).1
  exact commitsAgree_assemble (c := contextOf t b o repositories table)
    (fun ht => haccepted.truthy_ostreeUrl ht) hassemble

theorem commitsAgree_ofRequest_iotRawImage :
    ∃ t m, t.family = .ostreeDisk ∧
      ofRequest t {} { ostree := some { url := "https://example.com/repo" } } [] 7 = .ok (m, []) ∧
      CommitsAgree t { ostree := some { url := "https://example.com/repo" } } m := by
  obtain ⟨t, m, -, hf, h⟩ := ofRequest_iotRawImage
  exact ⟨t, m, hf, h, commitsAgree_ofRequest h⟩

end Manifest
end Imagewright
