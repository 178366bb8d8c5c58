import Imagewright.Proofs.Blueprint.Usable
import Imagewright.Proofs.Catalog.Fedora
import Imagewright.Proofs.Manifest.Steps
import Imagewright.Proofs.Request.Accepted

/-!
# What validates, builds

## Main definitions

* `Manifest.Ready`: what the assembly of a manifest relies on.
* `Manifest.Needs`: the bytes that the partitions of an image need.

## Main statements

* `Manifest.succeeds_assemble`: a context that is ready has a manifest.
* `Manifest.build_of_accepted`, `Manifest.build_of_validate`: a valid request whose values can be
  used, or are well typed, has a manifest, unless its size is too small.
-/
namespace Imagewright.Manifest

open Blueprint (Customizations)
open Outcome

/-- What the assembly of a manifest relies on. -/
structure Ready (c : Context) : Prop where
  settings : c.settings.UsableFor c.target.family
  installer : c.target.family = .simplifiedInstaller →
    Request.checkSimplifiedInstaller c.target.imageType.name c.settings = .ok ()
  modes : ∀ d ∈ c.settings.directories, Request.checkMode d.mode = .ok ()
  ref : Succeeds c.target.ostreeRef
  ostree : c.target.family.takesCommit = true → ∃ s, c.options.ostree = some s
  table : c.target.family.partitioned = true → ∃ t, c.table = some t ∧ Disk.Mountable t

/-! ## Customizations -/

section

variable {c : Customizations}

theorem succeeds_put {key : Value} (h : key.isAtomic = true) (entries : Entries)
    (fields : List (String × Value)) : Succeeds (entries.put key fields) := by
  rw [Entries.put, if_pos h]
  exact succeeds_ok _

theorem succeeds_userEntries (h : c.Usable) : Succeeds (userEntries c) :=
  succeeds_foldlM (fun k hk entries => succeeds_put (h.keys k hk) entries _) _

theorem succeeds_usersStage (h : c.Usable) : Succeeds (usersStage c) :=
  succeeds_bind (succeeds_userEntries h) fun _ _ => succeeds_pure _

theorem succeeds_accountStages (h : c.Usable) : Succeeds (accountStages c) := by
  obtain ⟨s, hs⟩ := succeeds_usersStage h
  refine ⟨_, accountStages_eq_ok.2 ⟨if c.users.isEmpty && c.sshKeys.isEmpty then [] else [s], ?_,
    rfl⟩⟩
  split <;> simp [hs]

/-- A mode that is given and passes its check is a number. -/
theorem exists_modeNumber {mode : Value} (h : Request.checkMode mode = .ok ())
    (hn : mode.isNull = false) : ∃ (s : String) (n : Nat), mode = s ∧ modeNumber mode = .ok n ∧
      Request.IsOctal s n ∧ n ≤ 4095 := by
  obtain ⟨s, rfl, hmode⟩ := Request.isMode_of_checkMode h hn
  obtain ⟨n, hn, hoctal⟩ := Request.readInt_of_isMode hmode
  exact ⟨s, n, rfl, liftM_numeral_eq_ok.2 hn, hoctal⟩

theorem succeeds_directoryEntry {d : Blueprint.Directory}
    (h : Request.checkMode d.mode = .ok ()) : Succeeds (directoryEntry d) := by
  by_cases hn : d.mode.isNull = true
  · exact ⟨_, directoryEntry_eq_ok.2 ⟨[], by simp [hn], rfl⟩⟩
  · obtain ⟨-, n, -, hnumber, -⟩ := exists_modeNumber h (by simpa using hn)
    exact ⟨_, directoryEntry_eq_ok.2 ⟨[("mode", .int n)], by simp [hn, hnumber], rfl⟩⟩

theorem succeeds_ownership (h : c.Usable) : Succeeds (ownership c) := by
  refine succeeds_foldlM (fun o ho entries =>
    succeeds_put (Value.isAtomic_of_isText ?_) entries _) _
  rcases List.mem_append.1 (List.mem_filter.1 ho).1 with ho | ho
  · obtain ⟨d, hd, rfl⟩ := List.mem_map.1 ho
    exact (h.directories d hd).1
  · obtain ⟨f, hf, rfl⟩ := List.mem_map.1 ho
    exact (h.files f hf).1

theorem succeeds_fileModes (h : c.Usable) : Succeeds (fileModes c) :=
  succeeds_foldlM (fun f hf entries =>
    succeeds_put (Value.isAtomic_of_isText (h.files f (List.mem_filter.1 hf).1).1) entries _) _

theorem succeeds_nodeStages (h : c.Usable)
    (hm : ∀ d ∈ c.directories, Request.checkMode d.mode = .ok ()) : Succeeds (nodeStages c) := by
  obtain ⟨directories, hd⟩ := succeeds_mapM fun d hd => succeeds_directoryEntry (hm d hd)
  obtain ⟨owners, ho⟩ := succeeds_ownership h
  obtain ⟨modes, hmodes⟩ := succeeds_fileModes h
  exact ⟨_, nodeStages_eq_ok.2 ⟨directories, owners, modes, hd, ho, hmodes, rfl⟩⟩

theorem succeeds_customizationStages (h : c.Usable)
    (hm : ∀ d ∈ c.directories, Request.checkMode d.mode = .ok ()) :
    Succeeds (customizationStages c) := by
  obtain ⟨accounts, ha⟩ := succeeds_accountStages h
  obtain ⟨nodes, hn⟩ := succeeds_nodeStages h hm
  exact ⟨_, customizationStages_eq_ok.2 ⟨accounts, nodes, ha, hn, rfl⟩⟩

theorem succeeds_kickstartStage (h : c.Usable) (options : List (String × Value)) :
    Succeeds (kickstartStage c options) := by
  obtain ⟨entries, he⟩ := succeeds_userEntries h
  refine ⟨_, kickstartStage_eq_ok.2 ⟨if c.users.isEmpty then [] else [("users", entries)], ?_,
    rfl⟩⟩
  split <;> simp [he]

theorem succeeds_textOption {v : Value} (h : v.isText = true) (name : String) :
    Succeeds (textOption name v) :=
  succeeds_bind (Value.succeeds_asText h) fun _ _ => succeeds_pure _

theorem succeeds_optionalTextOption {v : Value} (h : v.orFalse Value.isText = true)
    (name : String) : Succeeds (optionalTextOption name v) := by
  unfold optionalTextOption
  split
  · next htrue =>
    exact succeeds_bind (succeeds_textOption (Value.isText_of_orFalse h htrue) name)
      fun _ _ => succeeds_pure _
  · exact succeeds_pure _

theorem succeeds_onboardingOptions {s : Blueprint.FdoSettings} (h : c.Installable)
    (hs : c.fdo = some s) (hserver : s.manufacturingServerUrl.truthy = true) :
    Succeeds (onboardingOptions s) := by
  have htexts := h.onboarding s hs
  simp only [List.all_cons, Bool.and_eq_true] at htexts
  exact succeeds_bind (succeeds_textOption (Value.isText_of_orFalse htexts.1 hserver) _)
    fun _ _ => succeeds_bind (succeeds_optionalTextOption htexts.2.1 _) fun _ _ => succeeds_pure _

end

/-- Mountpoints that are texts have lengths, so that there is an order of mounts. -/
theorem succeeds_copyStage {t : Disk.PartitionTable} (ht : Disk.Mountable t) (tree : String) :
    Succeeds (copyStage t tree) := by
  refine ⟨_, copyStage_eq_ok.2 ⟨fun f hf => ?_, rfl⟩⟩
  obtain ⟨path, hpath⟩ := ht.texts f.filesystem (filesystem_mem_of_placed hf)
  rw [hpath]
  rfl

/-! ## Settings of images -/

namespace Ready

variable {c : Context}

theorem succeeds_kernelOptions (h : Ready c) : Succeeds c.kernelOptions := by
  suffices hk : Succeeds (c.target.kernelOptions c.blueprint) by
    obtain ⟨k, hk⟩ := hk
    exact ⟨k, kernelOptions_eq_ok.2 hk⟩
  refine succeeds_bind (succeeds_mapM fun v hv => ?_) fun _ _ => succeeds_pure _
  obtain ⟨hv, htrue⟩ := List.mem_filter.1 hv
  apply Value.succeeds_asText
  rcases List.mem_append.1 hv with hv | hv
  · simp only [List.mem_cons, List.not_mem_nil, or_false] at hv
    rcases hv with rfl | rfl
    · rfl
    · exact Value.isText_of_orFalse h.settings.usable.kernelAppend htrue
  · split at hv
    · obtain rfl := List.mem_singleton.1 hv
      rfl
    · cases hv

theorem succeeds_ostreeRef (h : Ready c) : Succeeds c.ostreeRef := by
  unfold Context.ostreeRef
  split
  · exact succeeds_ok _
  · exact succeeds_mapError _ h.ref

theorem succeeds_commitSource (h : Ready c) (ht : c.target.family.takesCommit = true) :
    Succeeds c.commitSource := by
  obtain ⟨o, ho⟩ := h.ostree ht
  obtain ⟨ref, href⟩ := h.succeeds_ostreeRef
  exact ⟨_, commitSource_eq_ok.2 ⟨o, ref, ho, href, rfl⟩⟩

/-! ## Pipelines -/

theorem succeeds_osPipeline (h : Ready c) (committed : Bool) :
    Succeeds (osPipeline c committed) := by
  obtain ⟨k, hk⟩ := h.succeeds_kernelOptions
  obtain ⟨customizations, hc⟩ := succeeds_customizationStages h.settings.usable h.modes
  exact ⟨_, osPipeline_eq_ok.2 ⟨k, customizations, hk, hc, rfl⟩⟩

theorem succeeds_imagePipeline (h : Ready c) (hp : c.target.family.partitioned = true)
    (filename tree : String) : Succeeds (imagePipeline c filename tree) := by
  obtain ⟨t, ht, hmount⟩ := h.table hp
  obtain ⟨copy, hcopy⟩ := succeeds_copyStage hmount tree
  exact ⟨_, imagePipeline_eq_ok.2 ⟨t, copy, ht, hcopy, rfl⟩⟩

theorem succeeds_commitPipeline (h : Ready c) : Succeeds (commitPipeline c) := by
  obtain ⟨ref, href⟩ := h.succeeds_ostreeRef
  exact ⟨_, commitPipeline_eq_ok.2 ⟨ref, href, rfl⟩⟩

theorem succeeds_deploymentPipeline (h : Ready c) (ht : c.target.family.takesCommit = true)
    (hp : c.target.family.partitioned = true) : Succeeds (deploymentPipeline c) := by
  obtain ⟨ref, href⟩ := h.succeeds_ostreeRef
  obtain ⟨o, ho⟩ := h.ostree ht
  obtain ⟨k, hk⟩ := h.succeeds_kernelOptions
  obtain ⟨s, hs⟩ := succeeds_usersStage h.settings.usable
  obtain ⟨nodes, hn⟩ := succeeds_nodeStages h.settings.usable h.modes
  obtain ⟨t, htable, -⟩ := h.table hp
  refine ⟨_, deploymentPipeline_eq_ok.2 ⟨ref, o, k,
    if c.settings.users.isEmpty then [] else [s], nodes, t, href, ho, hk, ?_, hn, htable, rfl⟩⟩
  split <;> simp [hs]

theorem succeeds_simplifiedKernelOptions (h : Ready c)
    (hf : c.target.family = .simplifiedInstaller) (imageFile : String) :
    Succeeds (simplifiedKernelOptions c imageFile) := by
  have hinstallable := h.settings.installable hf
  obtain ⟨hdevice, hserver⟩ := Request.truthy_of_checkSimplifiedInstaller (h.installer hf)
  unfold simplifiedKernelOptions
  refine succeeds_bind (succeeds_mapError _ (succeeds_textOption
    (Value.isText_of_orFalse hinstallable.device hdevice) _)) fun device _ => ?_
  extract_lets behindOnboarding
  have hbehind : ∀ onboarding, Succeeds (behindOnboarding onboarding) := by
    intro onboarding
    simp only [behindOnboarding]
    have hk := h.succeeds_kernelOptions
    split
    · next s hs =>
      exact succeeds_bind (succeeds_mapError _ (succeeds_optionalTextOption
        (hinstallable.provisioning s hs) _)) fun _ _ => succeeds_bind (succeeds_pure _)
          fun _ _ => succeeds_bind hk fun _ _ => succeeds_pure _
    · exact succeeds_bind (succeeds_pure _)
        fun _ _ => succeeds_bind hk fun _ _ => succeeds_pure _
  split
  · next fdo hfdo =>
    exact succeeds_bind (succeeds_mapError _ (succeeds_onboardingOptions hinstallable hfdo
      (hserver fdo hfdo))) fun _ _ => succeeds_bind (succeeds_pure _) fun _ _ => hbehind _
  · exact succeeds_bind (succeeds_pure _) fun _ _ => hbehind _

end Ready

/-! ## Manifests -/

/-- A context that is ready has a manifest. -/
theorem succeeds_assemble {c : Context} (h : Ready c) : Succeeds (assemble c) := by
  obtain ⟨commit, hcommit⟩ := h.succeeds_commitPipeline
  obtain ⟨ref, href⟩ := h.succeeds_ostreeRef
  obtain ⟨os, hos⟩ := h.succeeds_osPipeline false
  obtain ⟨tree, htree⟩ := h.succeeds_osPipeline true
  unfold assemble
  split
  case h_1 hf =>
    obtain ⟨image, himage⟩ := h.succeeds_imagePipeline (by rw [hf]; rfl) (diskFile c) "os"
    exact ⟨_, diskManifest_eq_ok.2 ⟨os, image, hos, himage, rfl⟩⟩
  case h_2 => exact ⟨_, containerManifest_eq_ok.2 ⟨os, hos, rfl⟩⟩
  case h_3 => exact ⟨_, commitManifest_eq_ok.2 ⟨commit.1, commit.2, tree, hcommit, htree, rfl⟩⟩
  case h_4 =>
    exact ⟨_, commitContainerManifest_eq_ok.2
      ⟨commit.1, commit.2, ref, tree, hcommit, href, htree, rfl⟩⟩
  case h_5 hf =>
    obtain ⟨deployment, hd⟩ :=
      h.succeeds_deploymentPipeline (by rw [hf]; rfl) (by rw [hf]; rfl)
    obtain ⟨image, himage⟩ := h.succeeds_imagePipeline (by rw [hf]; rfl) "image.raw"
      "ostree-deployment"
    obtain ⟨source, hs⟩ := h.succeeds_commitSource (by rw [hf]; rfl)
    exact ⟨_, deployedDiskManifest_eq_ok.2 ⟨deployment, image, source, hd, himage, hs, rfl⟩⟩
  case h_6 =>
    obtain ⟨kickstart, hk⟩ := succeeds_kickstartStage h.settings.usable _
    exact ⟨_, imageInstallerManifest_eq_ok.2 ⟨kickstart, os, hk, hos, rfl⟩⟩
  case h_7 => exact succeeds_ok _
  case h_8 hf =>
    obtain ⟨kickstart, hk⟩ := succeeds_kickstartStage h.settings.usable _
    obtain ⟨source, hs⟩ := h.succeeds_commitSource (by rw [hf]; rfl)
    exact ⟨_, commitInstallerManifest_eq_ok.2 ⟨ref, kickstart, source, href, hk, hs, rfl⟩⟩
  case h_9 hf =>
    obtain ⟨kernelOptions, hk⟩ := h.succeeds_simplifiedKernelOptions hf "image.raw.xz"
    obtain ⟨deployment, hd⟩ :=
      h.succeeds_deploymentPipeline (by rw [hf]; rfl) (by rw [hf]; rfl)
    obtain ⟨image, himage⟩ := h.succeeds_imagePipeline (by rw [hf]; rfl) "image.raw"
      "ostree-deployment"
    obtain ⟨source, hs⟩ := h.succeeds_commitSource (by rw [hf]; rfl)
    exact ⟨_, simplifiedInstallerManifest_eq_ok.2
      ⟨kernelOptions, deployment, image, source, hk, hd, himage, hs, rfl⟩⟩

/-! ## Requests -/

open Catalog (Fedora.Listed Fedora.registry Target)
open Request (Options Warning)

variable {t : Target} {b : Blueprint} {o : Options}

/-- The bytes that the partitions of an image need, with the mountpoints of a blueprint. -/
def Needs (t : Target) (b : Blueprint) (needed : Int) : Prop :=
  ∃ base sized ps, t.table = some base ∧
    Disk.checkMountpoints .standard b.settings.filesystem = .ok sized ∧
    Disk.arrange base sized Disk.requiredSizes = .ok ps ∧ Disk.neededSize base.label ps = needed

/-- Rounding a size up for an image type does not change the whole mebibytes that it takes up. -/
theorem alignUp_size {size : Int} (h : size ≠ 0) :
    Disk.alignUp (t.size size) = Disk.alignUp size := by
  have hs : (size == 0) = false := by simpa using h
  simp only [Target.size, hs, Bool.false_eq_true, if_false]
  split
  · next hround =>
    simp only [Bool.and_eq_true, bne_iff_ne] at hround
    have := hround.2
    unfold Disk.alignUp Disk.mib at *
    omega
  · rfl

/-- What was validated is ready to be assembled. -/
theorem ready_contextOf (ht : Fedora.Listed t) (hb : b.settings.UsableFor t.family)
    (ha : Request.Accepted t.release.mountpointPolicy t.imageType b o)
    (repositories : List Repository) {table : Option Disk.PartitionTable}
    (htable : t.family.partitioned = true → ∃ planned, table = some planned ∧
      Disk.Mountable planned) :
    Ready (contextOf t b o repositories table) where
  settings := hb
  installer := ha.installer
  modes := by
    obtain ⟨-, -, -, -, -, -, -, -, hmodes, -⟩ := Request.checkTree_eq_ok.1 ha.tree
    exact hmodes
  ref := ht.succeeds_ostreeRef
  ostree := ha.exists_ostree
  table := htable

/-- An accepted request for an image type of Fedora is assembled or has too small a size. -/
theorem build_of_accepted (ht : Fedora.Listed t) (hb : b.settings.UsableFor t.family)
    (ha : Request.Accepted t.release.mountpointPolicy t.imageType b o)
    (repositories : List Repository) (seed : Int) :
    Succeeds (build t b o repositories seed) ∨
      t.family.partitioned = true ∧ o.size ≠ 0 ∧ ∃ needed, Needs t b needed ∧
        Disk.alignUp o.size < needed ∧
        build t b o repositories seed =
          .error (.disk (.insufficient needed (t.size o.size))) := by
  by_cases hp : t.family.partitioned = true
  · obtain ⟨base, hbase, hstandard⟩ := ht.table_eq_some hp
    obtain ⟨sized, hsized⟩ := ha.mountpoints
    rw [ht.mountpointPolicy] at hsized
    obtain ⟨ps, hps, hplan⟩ := Disk.plan_or_insufficient hstandard.mountable hsized
      (t.size o.size) Disk.requiredSizes (o.size != 0) (Random.Twister.ofSeed seed)
    -- What can still fail here is the size alone: the mountpoints passed the same check before.
    rcases hplan with ⟨planned, hplan⟩ | ⟨hstrict, hlt, herror⟩
    · left
      have hmountable := Disk.mountable_plan hstandard.mountable hplan
      obtain ⟨m, hm⟩ := succeeds_assemble (ready_contextOf ht hb ha repositories
        fun _ => ⟨planned, rfl, hmountable⟩)
      refine ⟨m, build_eq_ok.2 ⟨some planned, ?_, hm⟩⟩
      rw [if_pos hp]
      exact ⟨planned, planTable_eq_ok.2 ⟨base, hbase, hplan⟩, rfl⟩
    · right
      have hsize : o.size ≠ 0 := by simpa using hstrict
      rw [alignUp_size (by exact_mod_cast hsize)] at hlt
      refine ⟨hp, hsize, _, ⟨base, sized, ps, hbase, hsized, hps, rfl⟩, hlt, ?_⟩
      rw [build_eq, if_pos hp]
      simp only [planTable, hbase, herror, Except.mapError]
      rfl
  · left
    obtain ⟨m, hm⟩ := succeeds_assemble (c := contextOf t b o repositories none)
      (ready_contextOf ht hb ha repositories fun h => absurd h hp)
    exact ⟨m, build_eq_ok.2 ⟨none, by rw [if_neg hp], hm⟩⟩

/-- A valid request has a manifest. Only an image with partitions has none if a size is asked for,
and that size, in whole mebibytes, is below what its partitions need. -/
theorem build_of_validate {distribution arch name : String} {ws : List Warning}
    (ht : Fedora.registry.get distribution arch name = .ok t) (hb : b.WellTyped)
    (hv : Request.validate t.release.mountpointPolicy t.imageType b o = .ok ws)
    (repositories : List Repository) (seed : Int) :
    Succeeds (build t b o repositories seed) ∨
      t.family.partitioned = true ∧ o.size ≠ 0 ∧ ∃ needed, Needs t b needed ∧
        Disk.alignUp o.size < needed ∧
        build t b o repositories seed =
          .error (.disk (.insufficient needed (t.size o.size))) :=
  build_of_accepted (Catalog.Fedora.listed_of_get ht) (hb.settings.usableFor _)
    (Request.validate_eq_ok.1 hv).1 repositories seed

/-- A valid request for an image of the usual size has a manifest. -/
theorem exists_ofRequest (ht : Fedora.Listed t) (hb : b.WellTyped) {ws : List Warning}
    (hv : Request.validate t.release.mountpointPolicy t.imageType b o = .ok ws) (hsize : o.size = 0)
    (repositories : List Repository) (seed : Int) :
    ∃ m, ofRequest t b o repositories seed = .ok (m, ws) := by
  rcases build_of_accepted ht (hb.settings.usableFor _) (Request.validate_eq_ok.1 hv).1 repositories
      seed with
    ⟨m, hm⟩ | ⟨-, hne, -⟩
  · exact ⟨m, ofRequest_eq_ok.2 ⟨hv, hm⟩⟩
  · exact absurd hsize hne

/-- A disk from a commit, with a directory and a user, is built. -/
theorem build_of_validate_deployment :
    let b : Blueprint := { customizations := some {
      directories := [{ path := "/etc/app", mode := "0750" }]
      users := [{ name := ⟨"admin", by decide⟩, key := "ssh-ed25519 AAAA" }] } }
    let o : Options := { ostree := some { url := "https://example.com/repo" } }
    ∃ t ws, Fedora.registry.get "fedora-40" "aarch64" "iot-raw-image" = .ok t ∧ b.WellTyped ∧
      Request.validate t.release.mountpointPolicy t.imageType b o = .ok ws ∧
      Succeeds (build t b o [] 7) := by
  intro b o
  have hb : b.WellTyped := by
    refine ⟨by simp [b], by simp [b], by simp [b], fun c hc => ?_⟩
    obtain rfl := Option.some.inj hc
    constructor <;> simp [Value.orNull, Value.isNull, Value.isText, Blueprint.User.wellTyped,
      Blueprint.Directory.wellTyped]
  obtain ⟨⟨_, _, ⟨d, _, _, _⟩, _⟩, ht, rfl, rfl, hd, -⟩ := Catalog.Fedora.get_iotRawImage
  obtain rfl : d = Catalog.Fedora.drafts[7] := hd
  refine ⟨_, [], ht, hb, rfl, ?_⟩
  rcases build_of_validate (o := o) ht hb rfl [] 7 with hbuild | ⟨-, hsize, -⟩
  · exact hbuild
  · exact absurd rfl hsize

/-- The disk image of the edition for devices is built from a commit. -/
theorem ofRequest_iotRawImage :
    ∃ t m, Fedora.registry.get "fedora-40" "aarch64" "iot-raw-image" = .ok t ∧
      t.family = .ostreeDisk ∧
      ofRequest t {} { ostree := some { url := "https://example.com/repo" } } [] 7 =
        .ok (m, []) := by
  obtain ⟨⟨_, _, ⟨d, h₁, h₂, h₃⟩, _⟩, ht, rfl, rfl, hd, -⟩ := Catalog.Fedora.get_iotRawImage
  obtain rfl : d = Catalog.Fedora.drafts[7] := hd
  have hb : Blueprint.WellTyped {} := ⟨by simp, by simp, by simp, by simp⟩
  have hv : Request.validate .standard ⟨Catalog.Fedora.drafts[7], h₁, h₂, h₃⟩ {}
      { ostree := some { url := "https://example.com/repo" } } = .ok [] := rfl
  obtain ⟨m, hm⟩ := exists_ofRequest (Catalog.Fedora.listed_of_get ht) hb hv rfl [] 7
  exact ⟨_, m, ht, rfl, hm⟩

/-- A disk image with a package is built, of a size that is no whole number of mebibytes. -/
theorem ofRequest_qcow2 (repositories : List Repository) :
    ∃ t m, Fedora.registry.get "fedora-38" "x86_64" "qcow2" = .ok t ∧ t.family = .disk ∧
      ofRequest t { packages := [⟨⟨"vim", by decide⟩, ""⟩] } { size := 6000000000 } repositories 7 =
        .ok (m, []) := by
  obtain ⟨⟨_, _, ⟨d, h₁, h₂, h₃⟩, _⟩, ht, rfl, rfl, hd, htable⟩ := Catalog.Fedora.get_qcow2
  obtain rfl : d = Catalog.Fedora.drafts[14] := hd
  have hb : Blueprint.WellTyped { packages := [⟨⟨"vim", by decide⟩, ""⟩] } :=
    ⟨by simp [Blueprint.Package.wellTyped, Value.isText], by simp, by simp, by simp⟩
  have hv : Request.validate .standard ⟨Catalog.Fedora.drafts[14], h₁, h₂, h₃⟩
      { packages := [⟨⟨"vim", by decide⟩, ""⟩] } { size := 6000000000 } = .ok [] := rfl
  have hbuild := build_of_accepted (Catalog.Fedora.listed_of_get ht) (hb.settings.usableFor _)
    (Request.validate_eq_ok.1 hv).1 repositories 7
  rcases hbuild with ⟨m, hm⟩ | ⟨-, -, needed, ⟨base, sized, ps, hbase, hsized, hps, rfl⟩, hlt, -⟩
  · exact ⟨_, m, ht, rfl, ofRequest_eq_ok.2 ⟨hv, hm⟩⟩
  · -- the size that is asked for is above what the partitions of the table need
    obtain rfl := Option.some.inj (hbase.symm.trans htable)
    obtain rfl := Except.ok.inj hsized
    obtain rfl := Except.ok.inj hps
    exact absurd hlt (by decide)

end Imagewright.Manifest
