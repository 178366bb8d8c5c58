import Imagewright.Proofs.Manifest.Serialization
import Imagewright.Proofs.Manifest.Shapes
import Imagewright.Proofs.Packages.Additions

/-!
# Packages of pipelines

The package sets are gathered before the pipelines are assembled, and by other tables. They reach
the pipelines that they are meant for: a pipeline has package sets if and only if it has a stage
that installs them, and both know the same repositories.

## Main definitions

* `Manifest.FirstsOf`: each value of a list once, in the order of the first places.
* `Manifest.setsOf`: the package sets that are meant for a pipeline.
* `Manifest.Supplied`: each pipeline has its package sets and repositories.

## Main statements

* `Manifest.firstsOf_distinct`: what `distinct` keeps.
* `Manifest.chain_packageChains`: the chain of each pipeline.
* `Manifest.supplied_ofRequest`: the pipelines of a request are supplied.
-/
namespace Imagewright.Manifest

open Catalog (Family ImageType Target)
open Catalog.Fedora (Listed drafts listed_of_get platforms releasevers)
open PackageSetChains (bindSet chain_bind)
open Request (Options Warning)

/-! ## First occurrences -/

/-- Each value of a list once, in the order of the first places. -/
structure FirstsOf (all firsts : List Value) : Prop where
  /-- Nothing is added and nothing changes its place. -/
  sublist : firsts.Sublist all
  once : firsts.Pairwise fun earlier later => later.same earlier = false
  /-- What stands in front is there in front already. -/
  first : ∀ before after, all = before ++ after → ∃ kept rest, firsts = kept ++ rest ∧
    kept.Sublist before ∧ ∀ v ∈ before, v ∈ kept ∨ v.isIn kept = true

section

variable {seen vs ws : List Value}

theorem isIn_append {v : Value} : v.isIn (vs ++ ws) = (v.isIn vs || v.isIn ws) := List.any_append

theorem distinctFrom_sublist : (distinctFrom seen vs).Sublist vs := by
  induction vs generalizing seen with
  | nil => exact .refl _
  | cons v vs ih =>
    unfold distinctFrom
    split
    · exact ih.cons v
    · exact ih.cons_cons v

/-- Values that were seen may be filtered away beforehand. -/
theorem distinctFrom_filter (us : List Value) :
    distinctFrom (us ++ seen) vs = distinctFrom us (vs.filter (!·.isIn seen)) := by
  induction vs generalizing us with
  | nil => rfl
  | cons v vs ih =>
    cases hseen : v.isIn seen
    · rw [List.filter_cons_of_pos (by rw [hseen]; rfl), distinctFrom, distinctFrom, isIn_append,
        hseen, Bool.or_false, ih, ← List.cons_append, ih]
    · rw [List.filter_cons_of_neg (by rw [hseen]; decide), distinctFrom, isIn_append, hseen,
        Bool.or_true, if_pos rfl, ih]

theorem distinctFrom_eq : distinctFrom seen vs = distinct (vs.filter (!·.isIn seen)) :=
  distinctFrom_filter []

theorem isIn_of_mem_distinctFrom {v : Value} (h : v ∈ distinctFrom seen vs) :
    v.isIn seen = false := by
  rw [distinctFrom_eq] at h
  simpa using (List.mem_filter.1 (distinctFrom_sublist.subset h)).2

theorem pairwise_distinctFrom :
    (distinctFrom seen vs).Pairwise fun earlier later => later.same earlier = false := by
  induction vs generalizing seen with
  | nil => exact .nil
  | cons v vs ih =>
    unfold distinctFrom
    split
    · exact ih
    · refine .cons (fun w hw => ?_) ih
      have hnew := isIn_of_mem_distinctFrom hw
      simp only [Value.isIn, List.any_cons, Bool.or_eq_false_iff] at hnew
      exact hnew.1

theorem mem_distinctFrom {v : Value} (h : v ∈ vs) :
    v ∈ distinctFrom seen vs ∨ v.isIn (distinctFrom seen vs ++ seen) = true := by
  induction vs generalizing seen with
  | nil => cases h
  | cons w vs ih =>
    unfold distinctFrom
    split
    · next hw =>
      rcases List.mem_cons.1 h with rfl | h
      · right
        rw [isIn_append, hw, Bool.or_true]
      · exact ih h
    · rcases List.mem_cons.1 h with rfl | h
      · exact .inl List.mem_cons_self
      · refine (ih h).imp (List.mem_cons_of_mem w) fun hin => ?_
        simp only [Value.isIn, List.any_append, List.any_cons, Bool.or_eq_true] at hin ⊢
        tauto

/-- Behind some values, what was kept of these is seen as well. -/
theorem distinctFrom_append : distinctFrom seen (vs ++ ws) =
    distinctFrom seen vs ++ distinctFrom ((distinctFrom seen vs).reverse ++ seen) ws := by
  induction vs generalizing seen with
  | nil => rfl
  | cons v vs ih =>
    have hcons : ∀ us, distinctFrom seen (v :: us) =
        if v.isIn seen then distinctFrom seen us else v :: distinctFrom (v :: seen) us :=
      fun _ => rfl
    rw [List.cons_append, hcons, hcons]
    split
    · exact ih
    · rw [ih, List.reverse_cons, List.append_assoc]
      rfl

end

theorem firstsOf_distinct (vs : List Value) : FirstsOf vs (distinct vs) where
  sublist := distinctFrom_sublist
  once := pairwise_distinctFrom
  first := by
    rintro before after rfl
    refine ⟨distinct before, _, distinctFrom_append, distinctFrom_sublist, fun v hv => ?_⟩
    have hmem : v ∈ distinct before ∨ v.isIn (distinct before ++ []) = true := mem_distinctFrom hv
    rwa [List.append_nil] at hmem

/-! ## Chains -/

/-- The package sets that are meant for a pipeline: those of the build root, those of the image
type and one with the packages of the blueprint. -/
def setsOf (t : Target) (b : Blueprint) (name : String) : List PackageSet :=
  (if name = buildName then [t.buildPackages] else []) ++
    (t.payload.filter (·.1 == name)).map (·.2) ++
    if t.family.blueprintPipeline? = some name then [{ install := b.specs }] else []

theorem chain_foldl_add (entries : List (String × PackageSet)) (c : PackageSetChains)
    (name : String) : (entries.foldl (fun c e => c.add e.1 e.2) c).chain name =
      c.chain name ++ (entries.filter (·.1 == name)).map (·.2) := by
  induction entries generalizing c with
  | nil => simp
  | cons e entries ih =>
    rw [List.foldl_cons, ih]
    by_cases he : e.1 = name
    · rw [List.filter_cons_of_pos (by simpa using he), he, PackageSetChains.chain_add_self]
      simp
    · rw [List.filter_cons_of_neg (by simpa using he), PackageSetChains.chain_add_ne _ _ he]

/-- Each pipeline gets the sets that are meant for it, with the repositories that serve it. -/
theorem chain_packageChains (t : Target) (b : Blueprint) (repositories : List Repository)
    (name : String) : (packageChains t b repositories).chain name =
      (setsOf t b name).map (bindSet repositories name) := by
  have hroot : (PackageSetChains.add {} buildName t.buildPackages).chain name =
      if name = buildName then [t.buildPackages] else [] := by
    split
    · next h =>
      rw [h, PackageSetChains.chain_add_self]
      rfl
    · next h =>
      rw [PackageSetChains.chain_add_ne _ _ (Ne.symm h)]
      rfl
  unfold packageChains
  simp only
  rw [chain_bind]
  congr 1
  cases hf : t.family.blueprintPipeline? with
  | none => simp [setsOf, chain_foldl_add, hroot, hf]
  | some pipeline =>
    by_cases hname : pipeline = name
    · simp [setsOf, chain_foldl_add, hroot, hf, hname]
    · rw [PackageSetChains.chain_add_ne _ _ hname, chain_foldl_add, hroot]
      simp [setsOf, hf, hname]

/-! ## The catalog -/

section

variable {t : Target} {b : Blueprint} {name : String}

/-- The pipelines that package sets are meant for. -/
def suppliedNames (d : ImageType.Draft) : List String :=
  buildName :: d.packageSets.map (·.1) ++ d.family.blueprintPipeline?.toList

theorem setsOf_ne_nil_iff : setsOf t b name ≠ [] ↔ name ∈ suppliedNames t.imageType.toDraft := by
  have hpayload : (∃ e ∈ t.payload, e.1 = name) ↔ name ∈ t.imageType.packageSets.map (·.1) := by
    simp [Target.payload]
  have hblueprint : t.family.blueprintPipeline? = some name ↔
      name ∈ t.imageType.family.blueprintPipeline?.toList := Option.mem_toList.symm
  simp only [suppliedNames, List.cons_append, List.mem_cons, List.mem_append, ← hpayload,
    ← hblueprint, setsOf]
  by_cases hname : name = buildName <;> by_cases hf : t.family.blueprintPipeline? = some name <;>
    simp [hname, hf]

/-- The sets of the catalog have no repositories. -/
theorem repositories_setsOf (ht : Listed t) : ∀ s ∈ setsOf t b name, s.repositories = [] := by
  have hcatalog : ∀ d ∈ drafts, ∀ e ∈ d.packageSets, ∀ p ∈ platforms, ∀ v ∈ releasevers,
      (e.2 p.name v).repositories.isEmpty = true := by decide
  obtain ⟨v, hv, hr⟩ := ht.release
  intro s hs
  rw [setsOf, List.mem_append, List.mem_append] at hs
  rcases hs with (hs | hs) | hs
  · split at hs
    · rw [List.mem_singleton.1 hs, Target.buildPackages, hr]
      rfl
    · cases hs
  · obtain ⟨e, he, rfl⟩ := List.mem_map.1 hs
    obtain ⟨rule, hrule, rfl⟩ := List.mem_map.1 (List.mem_filter.1 he).1
    have hnone := hcatalog _ ht.draft rule hrule _ ht.platform v hv
    rw [hr]
    exact List.isEmpty_iff.1 hnone
  · split at hs
    · rw [List.mem_singleton.1 hs]
    · cases hs

theorem setsOf_build (ht : Listed t) : setsOf t b buildName = [t.buildPackages] := by
  have hcatalog : ∀ d ∈ drafts, buildName ∉ d.packageSets.map (·.1) ∧
      d.family.blueprintPipeline? ≠ some buildName := by decide
  obtain ⟨hpayload, hblueprint⟩ := hcatalog _ ht.draft
  have hnone : t.payload.filter (·.1 == buildName) = [] := by
    refine List.filter_eq_nil_iff.2 fun e he heq => hpayload ?_
    obtain ⟨rule, hrule, rfl⟩ := List.mem_map.1 he
    rw [← beq_iff_eq.1 heq]
    exact List.mem_map_of_mem (f := (·.1)) hrule
  simp [setsOf, hnone, Target.family, hblueprint]

/-- The pipelines that package sets are meant for are those that install packages. -/
theorem mem_suppliedNames : ∀ d ∈ drafts, ∀ shapes ∈ shapesOf d.family,
    (∀ s ∈ shapes, s.installs = true → s.name ∈ suppliedNames d) ∧
    ∀ name ∈ suppliedNames d, ∃ s ∈ shapes, s.installs = true ∧ s.name = name := by
  decide

section

variable {shapes : List Shape} (ht : Listed t) (hshapes : shapes ∈ shapesOf t.family)

include ht hshapes

theorem exists_shape_of_setsOf (h : setsOf t b name ≠ []) :
    ∃ s ∈ shapes, s.installs = true ∧ s.name = name :=
  (mem_suppliedNames _ ht.draft shapes hshapes).2 name (setsOf_ne_nil_iff.1 h)

theorem installs_iff {s : Shape} (hs : s ∈ shapes) :
    s.installs = true ↔ setsOf t b s.name ≠ [] := by
  refine ⟨fun h => setsOf_ne_nil_iff.2 ?_, fun h => ?_⟩
  · exact (mem_suppliedNames _ ht.draft shapes hshapes).1 s hs h
  · obtain ⟨s', hs', hinstalls, hname⟩ := exists_shape_of_setsOf ht hshapes h
    -- the names of shapes differ, so the shape that was found is this one
    exact List.inj_on_of_nodup_map (nodup_shapesOf _ _ hshapes) hs' hs hname ▸ hinstalls

end

end

/-! ## Pipelines with their packages -/

/-- The keys that an install stage checks signatures with. -/
def Stage.gpgKeys (s : Stage) : List Value := ((s.option? "gpgkeys").map (·.listed)).getD []

theorem gpgKeys_installStage (repositories : List Repository) :
    (installStage repositories).gpgKeys = distinct (repositories.flatMap (·.gpgKeys)) := by
  unfold Stage.gpgKeys Stage.option? installStage listField
  cases distinct (repositories.flatMap (·.gpgKeys)) <;> rfl

/-- The package sets that are meant for a pipeline, each with the repositories that serve it. -/
def boundSets (t : Target) (b : Blueprint) (repositories : List Repository) (name : String) :
    List PackageSet :=
  (setsOf t b name).map fun s =>
    { s with repositories := repositories.filter (·.appliesTo name) }

/-- Each pipeline of a manifest has its package sets and repositories, and installs its packages. -/
structure Supplied (t : Target) (b : Blueprint) (repositories : List Repository) (m : Manifest) :
    Prop where
  /-- The sets that are meant for a pipeline reach it, and no others. -/
  chains : ∀ name, m.chains.get? name =
    if (setsOf t b name).isEmpty then none else some (boundSets t b repositories name)
  /-- The build root has its own set alone. -/
  root : m.chains.get? buildName =
    some [{ t.buildPackages with repositories := repositories.filter (·.appliesTo buildName) }]
  own : ∀ p ∈ m.pipelines, p.chain = (m.chains.get? p.name).getD []
  /-- A pipeline with package sets first installs them, and checks their signatures with the keys
  of its repositories. -/
  installed : ∀ p ∈ m.pipelines, p.chain ≠ [] → ∃ s rest, p.stages = s :: rest ∧
    stagesOf "rpm" p.stages = [s] ∧
    FirstsOf ((repositories.filter (·.appliesTo p.name)).flatMap (·.gpgKeys)) s.gpgKeys
  idle : ∀ p ∈ m.pipelines, p.chain = [] → stagesOf "rpm" p.stages = []
  /-- A repository for other pipelines is not used. -/
  restricted : ∀ p ∈ m.pipelines, ∀ s ∈ p.chain, ∀ r ∈ s.repositories,
    r ∈ repositories ∧ r.appliesTo p.name = true

section

variable {c : Context} {m : Manifest} {p : Pipeline} {s : Shape}

/-- Packages are installed by the first stage of a pipeline only. -/
theorem rpm_notMem_types (f : Family) : ∀ shapes ∈ shapesOf f, ∀ s ∈ shapes,
    "org.osbuild." ++ "rpm" ∉ s.types := by
  cases f <;> decide

theorem stagesOf_rpm_eq_nil {ss : List Stage} (h : OfTypes s.types ss) {f : Family}
    {shapes : List Shape} (hshapes : shapes ∈ shapesOf f) (hs : s ∈ shapes) :
    stagesOf "rpm" ss = [] := h.stagesOf_eq_nil (rpm_notMem_types f shapes hshapes s hs)

/-- The chains of a manifest are those of its pipelines, if these have different names. -/
theorem mem_chains_iff (h : m.pipelineNames.Nodup) {name : String} {sets : List PackageSet} :
    m.chains.get? name = some sets ↔
      ∃ p ∈ m.pipelines, p.chain ≠ [] ∧ p.name = name ∧ p.chain = sets := by
  have hnodup : (((m.pipelines.filter (!·.chain.isEmpty)).map
      fun p => (p.name, p.chain)).map (·.1)).Nodup := by
    rw [List.map_map]
    exact h.sublist (List.filter_sublist.map _)
  rw [Assoc.get?_eq_some_iff (nodup_keys_chains m), chains, Assoc.ofList_of_nodup hnodup]
  simp [and_assoc]

section

variable {shapes : List Shape} (ht : Listed c.target)
  (hc : c.chains = packageChains c.target c.blueprint c.repositories)
  (hshapes : shapes ∈ shapesOf c.target.family)

theorem boundSets_eq_nil_iff {t : Target} {b : Blueprint} {repositories : List Repository}
    {name : String} : boundSets t b repositories name = [] ↔ setsOf t b name = [] :=
  List.map_eq_nil_iff

include ht hc in
theorem chain_eq_boundSets (name : String) :
    c.chains.chain name = boundSets c.target c.blueprint c.repositories name := by
  rw [hc, chain_packageChains]
  refine List.map_congr_left fun s hs => ?_
  rw [bindSet, repositories_setsOf ht s hs, List.nil_append]

include ht hc hshapes

theorem Shape.Describes.chain_eq_boundSets (hd : s.Describes c p) (hs : s ∈ shapes) :
    p.chain = boundSets c.target c.blueprint c.repositories p.name := by
  rw [hd.chain_eq, hd.name_eq, ← Manifest.chain_eq_boundSets ht hc]
  split
  · rfl
  · next hinstalls =>
    rw [installs_iff (b := c.blueprint) ht hshapes hs, not_not] at hinstalls
    rw [Manifest.chain_eq_boundSets ht hc, boundSets_eq_nil_iff.2 hinstalls]

theorem Shape.Describes.installs_iff (hd : s.Describes c p) (hs : s ∈ shapes) :
    s.installs = true ↔ p.chain ≠ [] := by
  rw [Manifest.installs_iff (b := c.blueprint) ht hshapes hs,
    hd.chain_eq_boundSets ht hc hshapes hs, hd.name_eq]
  exact not_congr boundSets_eq_nil_iff.symm

/-- The sets that are meant for a pipeline are those of the pipeline of this name. -/
theorem get?_chains (hshaped : Shaped c shapes m.pipelines) (name : String) :
    m.chains.get? name = if (setsOf c.target c.blueprint name).isEmpty then none
      else some (boundSets c.target c.blueprint c.repositories name) := by
  have hnames : m.pipelineNames.Nodup := hshaped.nodup_names hshapes
  have hchain : ∀ p ∈ m.pipelines,
      p.chain = boundSets c.target c.blueprint c.repositories p.name := by
    intro p hp
    obtain ⟨s, hs, hd⟩ := hshaped.exists_shape hp
    exact hd.chain_eq_boundSets ht hc hshapes hs
  split
  · next hempty =>
    refine Option.eq_none_iff_forall_not_mem.2 fun sets hsets => ?_
    obtain ⟨p, hp, hne, rfl, -⟩ := (mem_chains_iff hnames).1 hsets
    exact hne (by rw [hchain p hp, boundSets_eq_nil_iff, List.isEmpty_iff.1 hempty])
  · next hne =>
    rw [List.isEmpty_iff] at hne
    obtain ⟨s, hs, -, rfl⟩ := exists_shape_of_setsOf ht hshapes hne
    obtain ⟨p, hp, hd⟩ := hshaped.exists_pipeline hs
    rw [← hd.name_eq] at hne ⊢
    refine (mem_chains_iff hnames).2 ⟨p, hp, ?_, rfl, hchain p hp⟩
    rwa [hchain p hp, Ne, boundSets_eq_nil_iff]

end

theorem supplied_assemble (ht : Listed c.target)
    (hc : c.chains = packageChains c.target c.blueprint c.repositories)
    (h : assemble c = .ok m) : Supplied c.target c.blueprint c.repositories m := by
  obtain ⟨shapes, hshapes, hshaped⟩ := shaped_assemble h
  have hget := get?_chains ht hc hshapes hshaped
  refine ⟨hget, ?_, fun p hp => ?_, fun p hp hne => ?_, fun p hp hempty => ?_, fun p hp s hs => ?_⟩
  · rw [hget, boundSets, setsOf_build ht]
    rfl
  all_goals obtain ⟨shape, hshape, hd⟩ := hshaped.exists_shape hp
  · rw [hget, hd.chain_eq_boundSets ht hc hshapes hshape]
    split
    · next hempty => rw [boundSets_eq_nil_iff.2 (List.isEmpty_iff.1 hempty), Option.getD_none]
    · rfl
  · obtain ⟨rest, hrest, hstages⟩ := hd.stages_eq
    rw [if_pos ((hd.installs_iff ht hc hshapes hshape).2 hne)] at hstages
    refine ⟨_, rest, hstages, ?_, ?_⟩
    · rw [hstages, stagesOf_append, stagesOf_rpm_eq_nil hrest hshapes hshape]
      rfl
    · rw [gpgKeys_installStage, hd.name_eq]
      exact firstsOf_distinct _
  · obtain ⟨rest, hrest, hstages⟩ := hd.stages_eq
    rw [if_neg fun hi => (hd.installs_iff ht hc hshapes hshape).1 hi hempty] at hstages
    rw [hstages, List.nil_append, stagesOf_rpm_eq_nil hrest hshapes hshape]
  · rw [hd.chain_eq_boundSets ht hc hshapes hshape] at hs
    obtain ⟨own, -, rfl⟩ := List.mem_map.1 hs
    exact fun r hr => List.mem_filter.1 hr

end

/-! ## Requests -/

/-- The package sets and repositories of a request reach exactly their pipelines. -/
theorem supplied_ofRequest {distribution arch name : String} {t : Target} {b : Blueprint}
    {o : Options} {repositories : List Repository} {seed : Int} {m : Manifest} {ws : List Warning}
    (ht : Catalog.Fedora.registry.get distribution arch name = .ok t)
    (h : ofRequest t b o repositories seed = .ok (m, ws)) : Supplied t b repositories m := by
  obtain ⟨-, hbuild⟩ := ofRequest_eq_ok.1 h
  obtain ⟨table, -, hassemble⟩ := build_eq_ok.1 hbuild
  exact supplied_assemble (c := contextOf t b o repositories table) (listed_of_get ht) rfl hassemble

theorem supplied_ofRequest_qcow2 :
    let b : Blueprint := { packages := [⟨⟨"vim", by decide⟩, ""⟩] }
    let updates : Repository := {
      id := ⟨"updates", by decide⟩, baseurls := ["https://example.com/updates"], metalink := .null
      mirrorlist := .null, gpgKeys := ["first", "second", "first"], checkGpg := true
      checkRepoGpg := false, ignoreSsl := false, packageSets := ["os"], has_source := rfl }
    let tools : Repository := { updates with
      id := ⟨"tools", by decide⟩, packageSets := ["build"], has_source := rfl }
    ∃ t m, Catalog.Fedora.registry.get "fedora-38" "x86_64" "qcow2" = .ok t ∧
      ofRequest t b { size := 6000000000 } [updates, tools] 7 = .ok (m, []) ∧
      Supplied t b [updates, tools] m := by
  intro b updates tools
  obtain ⟨t, m, ht, -, h⟩ := ofRequest_qcow2 [updates, tools]
  exact ⟨t, m, ht, h, supplied_ofRequest ht h⟩

end Imagewright.Manifest
