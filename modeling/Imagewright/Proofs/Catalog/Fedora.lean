import Imagewright.Catalog.Fedora
import Imagewright.Catalog.Target
import Imagewright.Proofs.Catalog.Registry
import Imagewright.Proofs.Disk.Filesystems

/-!
# What the registry of Fedora holds

Every image type that is found in the registry is one of the drafts, on one of the platforms and in
one of the releases. What a family needs from its image types is then a matter of going through the
drafts.

## Main definitions

* `Catalog.Fedora.Listed`: an image type with its architecture and its release is of Fedora.

## Main statements

* `Catalog.Fedora.listed_of_get`: what is found in the registry is of Fedora.
* `Catalog.Fedora.Listed.table_eq_some`, `Catalog.Fedora.Listed.succeeds_ostreeRef`: what an image
  type comes with.
-/
namespace Imagewright.Catalog.Fedora

/-- An image type with its architecture and its release is of Fedora. -/
structure Listed (t : Target) : Prop where
  release : ∃ v ∈ releasevers, t.release = release v
  platform : t.platform ∈ platforms
  draft : t.imageType.toDraft ∈ drafts
  available : t.arch ∈ t.imageType.arches
  table : t.table = if t.family.partitioned then defaultTable? t.arch else none

/-! ## Building the registry -/

theorem toDraft_mem_drafts {t : ImageType} (h : t ∈ imageTypes) : t.toDraft ∈ drafts := by
  obtain ⟨d, hd, hok⟩ := List.mem_filterMap.1 h
  cases hof : ImageType.ofDraft d with
  | error _ => simp [hof, Except.toOption] at hok
  | ok t' =>
    simp only [hof, Except.toOption, Option.some.injEq] at hok
    unfold ImageType.ofDraft at hof
    split_ifs at hof
    obtain rfl := Except.ok.inj hof
    exact hok ▸ hd

theorem entry_eq_ok {p : Platform} {t : ImageType} {e : Entry} (h : entry p t = .ok e) :
    e.imageType = t ∧ e.table = if t.family.partitioned then defaultTable? p.name else none := by
  unfold entry at h
  split at h
  · next hp =>
    split at h
    · next table htable =>
      obtain rfl := Except.ok.inj h
      exact ⟨rfl, by rw [if_pos hp, htable]⟩
    · cases h
  · next hp =>
    obtain rfl := Except.ok.inj h
    exact ⟨rfl, by rw [if_neg hp]⟩

theorem architecture_eq_ok {number : Int} {p : Platform} {a : Architecture}
    (h : architecture number p = .ok a) :
    a.platform = p ∧ ∀ e ∈ a.entries.values,
      ∃ t ∈ imageTypes, t.availableFor number p.name = true ∧ entry p t = .ok e := by
  refine Outcome.foldlM_invariant (fun a => a.platform = p ∧ ∀ e ∈ a.entries.values,
    ∃ t ∈ imageTypes, t.availableFor number p.name = true ∧ entry p t = .ok e) h
    ⟨rfl, fun _ he => absurd he List.not_mem_nil⟩ ?_
  rintro t ht a a' ⟨hplatform, hentries⟩ hstep
  obtain ⟨htype, havailable⟩ := List.mem_filter.1 ht
  obtain ⟨e, he, hadd⟩ := Outcome.bind_eq_ok.1 hstep
  obtain ⟨hp, hnew⟩ := Architecture.add_eq_ok hadd
  refine ⟨hp.trans hplatform, fun x hx => ?_⟩
  rcases hnew x hx with hx | rfl
  · exact hentries x hx
  · exact ⟨t, htype, havailable, he⟩

theorem distribution_eq_ok {v : String} {d : Distribution} (h : distribution v = .ok d) :
    d.release = release v ∧ ∀ a ∈ d.architectures.values,
      ∃ p ∈ platforms, ∃ number, architecture number p = .ok a := by
  obtain ⟨number, -, hfold⟩ := Outcome.bind_eq_ok.1 h
  refine Outcome.foldlM_invariant (fun d => d.release = release v ∧ ∀ a ∈ d.architectures.values,
    ∃ p ∈ platforms, ∃ number, architecture number p = .ok a) hfold
    ⟨rfl, fun _ ha => absurd ha List.not_mem_nil⟩ ?_
  rintro p hp d d' ⟨hrelease, harchs⟩ hstep
  obtain ⟨a, ha, hadd⟩ := Outcome.bind_eq_ok.1 hstep
  obtain ⟨hr, hnew⟩ := Distribution.add_eq_ok hadd
  refine ⟨hr.trans hrelease, fun x hx => ?_⟩
  rcases hnew x hx with hx | rfl
  · exact harchs x hx
  · exact ⟨p, hp, number, ha⟩

theorem listed_of_offers {v : String} (hv : v ∈ releasevers) {d : Distribution}
    (hd : distribution v = .ok d) {t : Target} (h : d.Offers t) : Listed t := by
  obtain ⟨hrelease, harchs⟩ := distribution_eq_ok hd
  obtain ⟨a, ha, e, he, rfl⟩ := h
  obtain ⟨p, hp, number, harch⟩ := harchs a ha
  obtain ⟨rfl, hentries⟩ := architecture_eq_ok harch
  obtain ⟨type, htype, havailable, hentry⟩ := hentries e he
  obtain ⟨rfl, htable⟩ := entry_eq_ok hentry
  refine ⟨⟨v, hv, hrelease⟩, hp, toDraft_mem_drafts htype, ?_, htable⟩
  simp only [ImageType.availableFor, Bool.and_eq_true, List.contains_eq_mem, decide_eq_true_eq]
    at havailable
  exact havailable.1

/-- What is found in the registry is of Fedora. -/
theorem listed_of_get {distribution arch name : String} {t : Target}
    (h : registry.get distribution arch name = .ok t) : Listed t := by
  unfold registry at h
  split at h
  · next r hr =>
    obtain ⟨ds, hds, hr⟩ := Outcome.bind_eq_ok.1 hr
    obtain ⟨d, hd, hoffers⟩ := Registry.offers_of_get (Registry.from_ofDistributions hr) h
    obtain ⟨v, hv, hd⟩ := Outcome.exists_of_mem_mapM hds hd
    exact listed_of_offers hv hd hoffers
  · cases h

/-! ## What the image types come with -/

open Disk

/-- What the partition tables have in common. -/
structure Standard (base : PartitionTable) : Prop where
  mountable : Mountable base
  rootLabel : RootLabel "root" base
  boot : ∃ f ∈ base.filesystems, f.mountpoint = "/boot"
  noExtended : NoExtended base.partitions

theorem standard_defaultTable {p : Platform} (h : p ∈ platforms) :
    ∃ base, defaultTable? p.name = some base ∧ Standard base := by
  simp only [platforms, List.mem_cons, List.not_mem_nil, or_false] at h
  rcases h with rfl | rfl | rfl | rfl
  all_goals
    refine ⟨_, rfl, ⟨?_, ?_, ?_⟩, ?_, ?_, ?_⟩
    case refine_6 => unfold NoExtended; decide
    all_goals
      simp [PartitionTable.filesystems, RootLabel, biosBoot, efiSystem, boot, root, prepBoot]

section

variable {arch : String} {base : PartitionTable}

theorem standard_of_defaultTable (h : defaultTable? arch = some base) : Standard base := by
  obtain ⟨p, hp, rfl⟩ : ∃ p ∈ platforms, p.name = arch := by
    unfold defaultTable? at h
    split_ifs at h <;> simp_all [platforms]
  obtain ⟨base', hbase, hstandard⟩ := standard_defaultTable hp
  exact Option.some.inj (hbase.symm.trans h) ▸ hstandard

theorem aligned_defaultTable (h : defaultTable? arch = some base) :
    ∀ p ∈ base.partitions, mib ∣ p.size := by
  unfold defaultTable? at h
  split_ifs at h <;> obtain rfl := Option.some.inj h <;> decide

theorem paths_defaultTable (h : defaultTable? arch = some base) :
    ∀ f ∈ base.filesystems, ∃ path, f.mountpoint = .str path ∧ isClean path = true := by
  have hclean : ["/boot/efi", "/boot", "/"].all isClean = true := by decide
  simp only [List.all_cons, List.all_nil, Bool.and_eq_true] at hclean
  unfold defaultTable? at h
  split_ifs at h <;> obtain rfl := Option.some.inj h <;>
    simp [PartitionTable.filesystems, biosBoot, efiSystem, boot, root, prepBoot, hclean]

end

theorem succeeds_fill_iotRef : ∀ v ∈ releasevers, ∀ p ∈ platforms,
    Outcome.Succeeds (Text.fillTemplate [("releasever", v), ("arch", p.name)] iotRef) := by
  have key : ∀ v ∈ releasevers, ∀ p ∈ platforms,
      (Text.fillTemplate [("releasever", v), ("arch", p.name)] iotRef).toOption.isSome := by
    decide
  intro v hv p hp
  have := key v hv p hp
  cases hfill : Text.fillTemplate [("releasever", v), ("arch", p.name)] iotRef with
  | ok ref => exact Outcome.succeeds_ok ref
  | error e => simp [hfill, Except.toOption] at this

namespace Listed

variable {t : Target}

theorem mountpointPolicy (h : Listed t) : t.release.mountpointPolicy = .standard := by
  obtain ⟨v, -, hr⟩ := h.release
  rw [hr]
  rfl

theorem table_eq_some (h : Listed t) (hp : t.family.partitioned = true) :
    ∃ base, t.table = some base ∧ Standard base := by
  rw [h.table, if_pos hp]
  exact standard_defaultTable h.platform

/-- A disk that is made from a commit boots with UEFI firmware. -/
theorem exists_efiSystem (h : Listed t) (hp : t.family.partitioned = true)
    (hc : t.family.takesCommit = true) {base : PartitionTable} (hb : t.table = some base) :
    ∃ f ∈ base.filesystems, f.mountpoint = "/boot/efi" := by
  have harches : ∀ d ∈ drafts, d.family.partitioned = true → d.family.takesCommit = true →
      d.arches = efiArches := by decide
  have harch := h.available
  rw [harches _ h.draft hp hc] at harch
  simp only [efiArches, List.mem_cons, List.not_mem_nil, or_false] at harch
  rw [h.table, if_pos hp] at hb
  rcases harch with harch | harch
  all_goals
    rw [harch] at hb
    obtain rfl := Option.some.inj hb
    simp [PartitionTable.filesystems, biosBoot, efiSystem, boot, root]

theorem succeeds_ostreeRef (h : Listed t) : Outcome.Succeeds t.ostreeRef := by
  have hdraft : ∀ d ∈ drafts, d.ostreeRef = "" ∨ d.ostreeRef = iotRef := by decide
  obtain ⟨v, hv, hr⟩ := h.release
  unfold Target.ostreeRef
  rcases hdraft _ h.draft with href | href
  · rw [href]
    exact Outcome.succeeds_ok ""
  · rw [href, hr]
    exact succeeds_fill_iotRef v hv _ h.platform

end Listed

/-! ## An image type that is found -/

/-- The name of a draft tells which one it is. -/
theorem draft_ext {d e : ImageType.Draft} (hd : d ∈ drafts) (he : e ∈ drafts)
    (hn : d.name = e.name) : d = e := by
  have hnodup : (drafts.map (·.name)).Nodup := by decide
  exact List.inj_on_of_nodup_map hnodup hd he hn

/-- A look-up that finds a name finds the draft of this name. -/
theorem get_of_found {distribution arch name v : String} {p : Platform} {d : ImageType.Draft}
    (hd : d ∈ drafts)
    (hfound : (registry.get distribution arch name).toOption.map
      (fun t => (t.release.releasever, t.platform, t.imageType.name)) = some (v, p, d.name)) :
    ∃ t, registry.get distribution arch name = .ok t ∧ t.release = release v ∧ t.platform = p ∧
      t.imageType.toDraft = d ∧
        t.table = if d.family.partitioned then defaultTable? p.name else none := by
  cases ht : registry.get distribution arch name with
  | error e => simp [ht, Except.toOption] at hfound
  | ok t =>
    simp only [ht, Except.toOption, Option.map_some, Option.some.injEq, Prod.mk.injEq] at hfound
    obtain ⟨hv, hp, hn⟩ := hfound
    have hlisted := listed_of_get ht
    obtain ⟨w, -, hr⟩ := hlisted.release
    have hdraft : t.imageType.toDraft = d := draft_ext hlisted.draft hd hn
    refine ⟨t, rfl, ?_, hp, hdraft, ?_⟩
    · rw [hr] at hv ⊢
      exact congrArg release hv
    · rw [hlisted.table, Target.family, hdraft, Target.arch, hp]

theorem get_iotRawImage : ∃ t, registry.get "fedora-40" "aarch64" "iot-raw-image" = .ok t ∧
    t.release = release "40" ∧ t.platform = ⟨"aarch64", false, true, []⟩ ∧
    t.imageType.toDraft = drafts[7] ∧ t.table = defaultTable? "aarch64" :=
  get_of_found (List.getElem_mem _) (by decide +kernel)

theorem get_simplifiedInstaller :
    ∃ t, registry.get "fedora-40" "aarch64" "iot-simplified-installer" = .ok t ∧
      t.release = release "40" ∧ t.platform = ⟨"aarch64", false, true, []⟩ ∧
      t.imageType.toDraft = drafts[8] ∧ t.table = defaultTable? "aarch64" :=
  get_of_found (List.getElem_mem _) (by decide +kernel)

theorem get_qcow2 : ∃ t, registry.get "fedora-38" "x86_64" "qcow2" = .ok t ∧
    t.release = release "38" ∧ t.platform = ⟨"x86_64", true, true, ["grub2-pc"]⟩ ∧
    t.imageType.toDraft = drafts[14] ∧ t.table = defaultTable? "x86_64" :=
  get_of_found (List.getElem_mem _) (by decide +kernel)

end Imagewright.Catalog.Fedora
