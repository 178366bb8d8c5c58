import Imagewright.Proofs.Manifest.BootOptions
import Imagewright.Proofs.Manifest.Certificates
import Imagewright.Proofs.Manifest.Mentions
import Imagewright.Proofs.Manifest.Shapes
import Imagewright.Proofs.Request.AllowList

/-!
# What a simplified installer is told

A simplified installer works without anyone at the keyboard: where to install, how to onboard and
where the provisioning comes from has to be in the manifest. The root certificates for onboarding
are not; only the name of a file is, and nothing writes that file.

## Main definitions

* `Manifest.bootOptions`, `Manifest.inlineFiles`: what an ISO image boots with, and the files that
  are written into a manifest.
* `Manifest.carriedSettings`: the settings that reach the manifest.
* `Manifest.Provisions`: what a manifest tells its installer.

## Main statements

* `Manifest.mem_bootOptions`: the boot options of a simplified installer.
* `Manifest.inlineFiles_simplifiedInstallerManifest`: the one file that it may be given.
* `Manifest.provisions_of_validate`: what the manifest of an accepted request tells its installer.
-/
namespace Imagewright.Manifest

open Blueprint (Customizations)
open Catalog (Fedora.registry Target)
open Outcome
open Request (Options Warning)

/-! ## What a manifest says -/

/-- The options that an ISO image boots with. -/
def bootOptions (m : Manifest) : List Value :=
  (stagesOf "grub2.iso" (allStages m)).flatMap fun s =>
    (((s.option? "kernel").bind (·.at? "opts")).map (·.listed)).getD []

/-- The files whose content is in a manifest. -/
def inlineFiles (m : Manifest) : List Value :=
  (stagesOf "inline-files" (allStages m)).flatMap fun s =>
    ((s.option? "files").map (·.listed)).getD []

/-- The texts that a simplified installer is given, apart from root certificates. -/
def carriedSettings (c : Customizations) : List Value :=
  [c.installationDevice] ++
    (c.fdo.map fun fdo => [fdo.manufacturingServerUrl, fdo.diunPubKeyHash]).getD [] ++
    (c.ignition.map fun s => [s.embeddedConfig, s.firstbootUrl]).getD []

/-- What the manifest of a simplified installer tells it. -/
structure Provisions (b : Blueprint) (m : Manifest) : Prop where
  mentioned : ∀ s : String, s ≠ "" → .str s ∈ carriedSettings b.settings →
    ∀ r nullName, (m.render r nullName).Mentions s
  /-- A blueprint may also write the option itself. -/
  insecure : .str insecureOption ∈ bootOptions m ↔
    (∃ fdo ∈ b.settings.fdo, fdo.diunPubKeyInsecure = true) ∨
      insecureOption ∈ Text.words b.settings.kernelAppend.text
  rootCerts : .str rootCertsOption ∈ bootOptions m ↔
    (∃ fdo ∈ b.settings.fdo, fdo.diunPubKeyRootCerts.truthy = true) ∨
      rootCertsOption ∈ Text.words b.settings.kernelAppend.text
  /-- No file of root certificates is among the files of the manifest. -/
  files : ∀ f ∈ inlineFiles m, f.at? "path" = some "/ignition_config"

section

variable {c : Context} {m : Manifest} {type : String}

/-! ## Stages and options -/

theorem Shape.Describes.stagesOf_eq_nil {shape : Shape} {p : Pipeline} (h : shape.Describes c p)
    (hinstall : "org.osbuild." ++ type ≠ Stage.installType)
    (ht : "org.osbuild." ++ type ∉ shape.types) : stagesOf type p.stages = [] := by
  obtain ⟨rest, hrest, hstages⟩ := h.stages_eq
  have hfirst : stagesOf type
      (if shape.installs then [installStage (c.repositoriesFor shape.name)] else []) = [] := by
    split
    · exact Manifest.stagesOf_eq_nil fun s hs => by
        rw [List.mem_singleton.1 hs]
        exact Ne.symm hinstall
    · rfl
  rw [hstages, stagesOf_append, hfirst, hrest.stagesOf_eq_nil ht]
  rfl

/-- Stages of some types are only in the deployment, the boot files and the tree of the ISO image of
a simplified installer. -/
theorem stagesOf_simplifiedInstallerManifest (h : simplifiedInstallerManifest c = .ok m)
    (type : String) (hinstall : "org.osbuild." ++ type ≠ Stage.installType)
    (hother : ∀ shape ∈ [rootShape, imageShape, plain "xz" ["xz"], coreosShape, isoShape],
      "org.osbuild." ++ type ∉ shape.types) :
    ∃ options deployment, simplifiedKernelOptions c "image.raw.xz" = .ok options ∧
      deploymentPipeline c = .ok deployment ∧
      stagesOf type (allStages m) = stagesOf type deployment.stages ++
        (stagesOf type (efibootPipeline c options).stages ++ stagesOf type
          (isoTreePipeline c "coi-tree" (simplifiedExtraStages c "image.raw.xz")).stages) := by
  obtain ⟨options, deployment, image, source, hoptions, hd, himage, -, rfl⟩ :=
    simplifiedInstallerManifest_eq_ok.1 h
  have hxz : (plain "xz" ["xz"]).Describes c
      (Context.plainPipeline "xz" [xzStage "image" "image.raw" "image.raw.xz"]) :=
    describes_plain (ofTypes_of_map ["xz"] rfl (by decide))
  refine ⟨options, deployment, hoptions, hd, ?_⟩
  simp only [allStages, List.flatMap_cons, List.flatMap_nil, stagesOf_append,
    (describes_buildPipeline c).stagesOf_eq_nil hinstall (hother _ (by simp)),
    (describes_imagePipeline himage).stagesOf_eq_nil hinstall (hother _ (by simp)),
    hxz.stagesOf_eq_nil hinstall (hother _ (by simp)),
    (describes_coreosPipeline c).stagesOf_eq_nil hinstall (hother _ (by simp)),
    (describes_isoPipeline c).stagesOf_eq_nil hinstall (hother _ (by simp))]
  simp [stagesOf]

/-- The boot options of the ISO image are those of the simplified installer. -/
theorem bootOptions_simplifiedInstallerManifest (h : simplifiedInstallerManifest c = .ok m) :
    ∃ options, simplifiedKernelOptions c "image.raw.xz" = .ok options ∧
      bootOptions m = options.map .str := by
  obtain ⟨options, deployment, hoptions, hd, hstages⟩ :=
    stagesOf_simplifiedInstallerManifest h "grub2.iso" (by decide) (by decide)
  have hextra := ofTypes_simplifiedExtraStages c "image.raw.xz"
  refine ⟨options, hoptions, ?_⟩
  rw [bootOptions, hstages,
    (describes_deploymentPipeline hd).stagesOf_eq_nil (by decide) (by decide),
    (describes_isoTreePipeline "coi-tree" _ hextra).stagesOf_eq_nil (by decide) (by decide)]
  exact List.append_nil _

/-- The types of the stages of a deployment without files of its own. -/
def filelessTypes : List String := moduleTypes
  ["ostree.init-fs", "ostree.pull", "ostree.os-init", "ostree.config", "mkdir", "ostree.deploy",
    "ostree.remotes", "ostree.fillvar", "groups", "users", "chown", "chmod", "systemd", "fstab",
    "grub2", "zipl", "ostree.selinux"]

theorem ofTypes_deploymentPipeline {p : Pipeline} (hfiles : c.settings.files = [])
    (h : deploymentPipeline c = .ok p) : OfTypes filelessTypes p.stages := by
  obtain ⟨ref, o, kernelOptions, users, nodes, t, -, -, -, husers, hnodes, -, rfl⟩ :=
    deploymentPipeline_eq_ok.1 h
  obtain ⟨directories, owners, modes, -, -, -, rfl⟩ := nodeStages_eq_ok.1 hnodes
  have hgroups : OfTypes filelessTypes
      (if c.settings.groups.isEmpty then [] else [groupsStage c.settings]) :=
    .ite .nil (ofTypes_of_map ["groups"] rfl (by decide))
  have husers : OfTypes filelessTypes users := (ofTypes_optionalUsers husers).mono (by decide)
  have hmkdir : OfTypes filelessTypes
      (if directories.isEmpty then [] else [stage "mkdir" [("paths", .list directories)]]) :=
    .ite .nil (ofTypes_of_map ["mkdir"] rfl (by decide))
  have howners : OfTypes filelessTypes (entriesStage "chown" owners) :=
    .ite .nil (ofTypes_of_map ["chown"] rfl (by decide))
  have hmodes : OfTypes filelessTypes (entriesStage "chmod" modes) :=
    .ite .nil (ofTypes_of_map ["chmod"] rfl (by decide))
  have hnodes := ((hmkdir.append .nil).append howners).append hmodes
  have hdeploy : OfTypes filelessTypes (deployStages ref
      (if o.contentUrl.truthy then o.contentUrl else o.url) kernelOptions) :=
    ofTypes_of_map ["ostree.init-fs", "ostree.pull", "ostree.os-init", "ostree.config", "mkdir",
      "ostree.deploy", "ostree.remotes", "ostree.fillvar"] rfl (by decide)
  have hservices : OfTypes filelessTypes (servicesStage? c).toList :=
    ofTypes_servicesStage?.mono (by decide)
  have hfstab : OfTypes filelessTypes [fstabStage t] := ofTypes_of_map ["fstab"] rfl (by decide)
  have hboot : OfTypes filelessTypes
      (bootloaderStages t c.arch .uefi "" c.target.release.product) :=
    ofTypes_bootloaderStages.mono (by decide)
  rw [hfiles]
  exact ((((((hdeploy.append hgroups).append husers).append hnodes).append hservices).append
    hfstab).append hboot).append (ofTypes_of_map ["ostree.selinux"] rfl (by decide))

/-- The only file whose content is in the manifest is the embedded configuration. -/
theorem inlineFiles_simplifiedInstallerManifest (hfiles : c.settings.files = [])
    (h : simplifiedInstallerManifest c = .ok m) :
    inlineFiles m = (c.settings.ignition.filter (·.embeddedConfig.truthy)).toList.map fun s =>
      .obj [("path", "/ignition_config"), ("data", s.embeddedConfig)] := by
  obtain ⟨options, deployment, hoptions, hd, hstages⟩ :=
    stagesOf_simplifiedInstallerManifest h "inline-files" (by decide) (by decide)
  rw [inlineFiles, hstages, (ofTypes_deploymentPipeline hfiles hd).stagesOf_eq_nil (by decide),
    (describes_efibootPipeline c options).stagesOf_eq_nil (by decide) (by decide)]
  simp only [isoTreePipeline, simplifiedExtraStages, Context.plainPipeline]
  cases c.settings.ignition.filter (·.embeddedConfig.truthy) <;> rfl

/-! ## The written manifest -/

section

variable {r : Resolution} {nullName text : String}

theorem mem_strings_of_mem_bootOptions {option : String} (h : .str option ∈ bootOptions m) :
    option ∈ (m.render r nullName).strings := by
  obtain ⟨s, hs, hoption⟩ := List.mem_flatMap.1 h
  cases hkernel : s.option? "kernel" with
  | none => simp [hkernel] at hoption
  | some kernel =>
    cases hoptions : kernel.at? "opts" with
    | none => simp [hkernel, hoptions] at hoption
    | some options =>
      simp only [hkernel, hoptions, Option.bind_some, Option.map_some, Option.getD_some] at hoption
      have hstring : option ∈ (Value.str option).strings := List.mem_singleton_self _
      exact mem_strings_render (List.mem_of_mem_filter hs) hkernel
        (Value.mem_strings_at? hoptions (Value.mem_strings_listed hoption hstring))

theorem mem_strings_of_mem_inlineFiles {f : Value} (hf : f ∈ inlineFiles m)
    (h : text ∈ f.strings) : text ∈ (m.render r nullName).strings := by
  obtain ⟨s, hs, hf⟩ := List.mem_flatMap.1 hf
  cases hfiles : s.option? "files" with
  | none => simp [hfiles] at hf
  | some files =>
    rw [hfiles] at hf
    exact mem_strings_render (List.mem_of_mem_filter hs) hfiles (Value.mem_strings_listed hf h)

end

/-! ## What the installer is told -/

/-- The boot options are those of the installer and the words of the kernel command line. -/
theorem mem_bootOptions (hw : c.settings.WellTyped) (h : simplifiedInstallerManifest c = .ok m)
    (option : String) : .str option ∈ bootOptions m ↔
      option ∈ installerTexts c "image.raw.xz" ∨
        option ∈ Text.words c.target.imageType.kernelOptions ∨
        option ∈ Text.words c.settings.kernelAppend.text ∨
        option ∈ if c.settings.fips.truthy then ["fips=1"] else [] := by
  obtain ⟨options, hoptions, hboot⟩ := bootOptions_simplifiedInstallerManifest h
  obtain ⟨commandLine, hcommand, rfl⟩ := (simplifiedKernelOptions_eq_ok hw).1 hoptions
  have hwords : Text.words commandLine = Text.words c.target.imageType.kernelOptions ++
      Text.words c.settings.kernelAppend.text ++
        if c.settings.fips.truthy then ["fips=1"] else [] :=
    words_kernelOptions hw (kernelOptions_eq_ok.1 hcommand)
  rw [hboot, List.mem_map_of_injective fun _ _ => Value.str.inj, hwords]
  simp only [List.mem_append, or_assoc]

/-- An option without a value is there if onboarding or the blueprint asks for it. -/
theorem flag_mem_bootOptions (hw : c.settings.WellTyped)
    (h : simplifiedInstallerManifest c = .ok m) {flag : String}
    (hflag : flag = insecureOption ∨ flag = rootCertsOption)
    (hown : flag ∉ Text.words c.target.imageType.kernelOptions) :
    .str flag ∈ bootOptions m ↔ (∃ fdo ∈ c.settings.fdo, flag ∈ onboardingTexts fdo) ∨
      flag ∈ Text.words c.settings.kernelAppend.text := by
  have hfips : flag ∉ (if c.settings.fips.truthy then ["fips=1"] else []) := by
    split <;> rcases hflag with rfl | rfl <;> decide
  rw [mem_bootOptions hw h, mem_installerTexts hflag]
  simp only [hown, hfips, false_or, or_false]

/-- A setting is behind the name of an option, or it is the embedded configuration. -/
theorem mem_carriedSettings {s : String} (hs : s ≠ "") (h : .str s ∈ carriedSettings c.settings)
    (imageFile : String) : (∃ name, name ++ s ∈ installerTexts c imageFile) ∨
      ∃ i ∈ c.settings.ignition, i.embeddedConfig = .str s := by
  have hoption : ∀ name, name ++ s ∈ optionOf name (.str s) := by
    intro name
    rw [optionOf, if_pos (by simpa [Value.truthy] using hs)]
    exact List.mem_singleton_self _
  simp only [carriedSettings, List.mem_append, List.mem_singleton] at h
  rcases h with (hdevice | hfdo) | hignition
  · refine .inl ⟨"coreos.inst.install_dev=", ?_⟩
    simp [installerTexts, ← hdevice, Value.text]
  · cases hc : c.settings.fdo with
    | none => simp [hc] at hfdo
    | some fdo =>
      simp only [hc, Option.map_some, Option.getD_some, List.mem_cons, List.not_mem_nil,
        or_false] at hfdo
      rcases hfdo with hserver | hhash
      · refine .inl ⟨"fdo.manufacturing_server_url=", ?_⟩
        simp [installerTexts, hc, onboardingTexts, ← hserver, Value.text]
      · refine .inl ⟨"fdo.diun_pub_key_hash=", ?_⟩
        simp [installerTexts, hc, onboardingTexts, ← hhash, hoption]
  · cases hc : c.settings.ignition with
    | none => simp [hc] at hignition
    | some i =>
      simp only [hc, Option.map_some, Option.getD_some, List.mem_cons, List.not_mem_nil,
        or_false] at hignition
      rcases hignition with hembedded | hfirstboot
      · exact .inr ⟨i, rfl, hembedded.symm⟩
      · refine .inl ⟨"ignition.config.url=", ?_⟩
        simp [installerTexts, hc, ← hfirstboot, hoption]

/-- The settings that are carried along are in the written manifest. -/
theorem mentions_carriedSettings (hw : c.settings.WellTyped) (hfiles : c.settings.files = [])
    (h : simplifiedInstallerManifest c = .ok m) {s : String} (hs : s ≠ "")
    (hsetting : .str s ∈ carriedSettings c.settings) (r : Resolution) (nullName : String) :
    (m.render r nullName).Mentions s := by
  rcases mem_carriedSettings hs hsetting "image.raw.xz" with ⟨name, hname⟩ | ⟨i, hi, hembedded⟩
  · have hboot := (mem_bootOptions hw h (name ++ s)).2 (.inl hname)
    exact Value.mentions_of_mem (mem_strings_of_mem_bootOptions hboot)
  · have hgiven : c.settings.ignition.filter (·.embeddedConfig.truthy) = some i := by
      simp [Option.mem_def.1 hi, Option.filter, hembedded, Value.truthy, hs]
    have hfile : .obj [("path", "/ignition_config"), ("data", .str s)] ∈ inlineFiles m := by
      rw [inlineFiles_simplifiedInstallerManifest hfiles h, hgiven, ← hembedded]
      exact List.mem_singleton_self _
    have hstring : s ∈ (Value.str s).strings := List.mem_singleton_self _
    have hfields : s ∈ (Value.obj [("path", "/ignition_config"), ("data", .str s)]).strings :=
      Value.mem_strings_obj (List.mem_cons_of_mem _ List.mem_cons_self) hstring
    exact ⟨s, mem_strings_of_mem_inlineFiles hfile hfields, List.infix_rfl⟩

theorem provisions_simplifiedInstallerManifest (hw : c.settings.WellTyped)
    (hfiles : c.settings.files = [])
    (hown : ∀ flag, flag = insecureOption ∨ flag = rootCertsOption →
      flag ∉ Text.words c.target.imageType.kernelOptions)
    (h : simplifiedInstallerManifest c = .ok m) : Provisions c.blueprint m := by
  have hne : insecureOption ≠ rootCertsOption := by decide
  refine ⟨fun s hs hsetting => mentions_carriedSettings hw hfiles h hs hsetting, ?_, ?_, ?_⟩
  · rw [flag_mem_bootOptions hw h (.inl rfl) (hown _ (.inl rfl))]
    simp only [mem_onboardingTexts (.inl rfl), hne, true_and, false_and, or_false]
    rfl
  · rw [flag_mem_bootOptions hw h (.inr rfl) (hown _ (.inr rfl))]
    simp only [mem_onboardingTexts (.inr rfl), hne.symm, true_and, false_and, false_or]
    rfl
  · intro f hf
    rw [inlineFiles_simplifiedInstallerManifest hfiles h] at hf
    obtain ⟨i, -, rfl⟩ := List.mem_map.1 hf
    rfl

/-! ## Requests -/

/-- What sets the simplified installer apart from the other image types of Fedora. -/
theorem simplifiedInstaller_draft : ∀ d ∈ Catalog.Fedora.drafts,
    d.name = "iot-simplified-installer" → d.family = .simplifiedInstaller ∧
      d.kernelOptions = Catalog.Fedora.iotKernelOptions ∧
      d.allowed = some [.installationDevice, .fdo, .ignition, .kernel, .user, .group, .fips] := by
  decide

/-- The manifest of an accepted request tells its installer what the request says, with the
exception of root certificates: the boot options name a file for them, which is not among the files
of the manifest, and the manifest is the same whatever certificates are given. -/
theorem provisions_of_validate {distribution arch name : String} {t : Target} {b : Blueprint}
    {o : Options} {ws : List Warning} (ht : Fedora.registry.get distribution arch name = .ok t)
    (hn : t.imageType.name = "iot-simplified-installer") (hb : b.WellTyped)
    (hv : Request.validate t.release.mountpointPolicy t.imageType b o = .ok ws)
    (repositories : List Repository) (seed : Int) :
    (∃ m, build t b o repositories seed = .ok m ∧ Provisions b m ∧
      ∀ certs, SameGiven b certs →
        Request.validate t.release.mountpointPolicy t.imageType (b.withRootCerts certs) o = .ok ws ∧
          build t (b.withRootCerts certs) o repositories seed = .ok m) ∨
      o.size ≠ 0 ∧ ∃ needed, Needs t b needed ∧ Disk.alignUp o.size < needed ∧
        build t b o repositories seed =
          .error (.disk (.insufficient needed (t.size o.size))) := by
  have hlisted := Catalog.Fedora.listed_of_get ht
  have haccepted := (Request.validate_eq_ok.1 hv).1
  obtain ⟨hfamily, hkernel, hallowed⟩ := simplifiedInstaller_draft _ hlisted.draft hn
  rcases build_of_accepted hlisted (hb.settings.usableFor _) haccepted repositories seed with
    ⟨m, hm⟩ | ⟨-, htoo⟩
  · refine .inl ⟨m, hm, ?_, fun certs hcerts => ?_⟩
    · obtain ⟨table, -, hassemble⟩ := build_eq_ok.1 hm
      have hcontext : (contextOf t b o repositories table).target.family = .simplifiedInstaller :=
        hfamily
      rw [assemble, hcontext] at hassemble
      have hfiles : b.settings.files = [] := by
        have huses := Request.uses_of_checkAllowed hallowed haccepted.allowed
          (k := .files) (by decide)
        simpa [Customizations.uses] using huses
      refine provisions_simplifiedInstallerManifest (c := contextOf t b o repositories table)
        hb.settings hfiles (fun flag hflag => ?_) hassemble
      change flag ∉ Text.words t.imageType.kernelOptions
      rw [hkernel]
      rcases hflag with rfl | rfl <;> decide
    · exact ⟨(validate_withRootCerts hcerts ..).trans hv,
        (build_withRootCerts hfamily hcerts ..).trans hm⟩
  · exact .inr htoo

end

/-- A blueprint that asks for a device, for onboarding and for provisioning. -/
def unattended (device server certs config : String) : Blueprint where
  customizations := some {
    installationDevice := device
    fdo := some { manufacturingServerUrl := server, diunPubKeyRootCerts := certs }
    ignition := some { embeddedConfig := config } }

theorem wellTyped_unattended (device server certs config : String) :
    (unattended device server certs config).WellTyped := by
  refine .of_customizations ?_
  constructor <;> simp [Blueprint.FdoSettings.wellTyped, Blueprint.IgnitionSettings.wellTyped,
    Value.orNull, Value.isNull, Value.isText]

theorem provisions_of_validate_iotSimplifiedInstaller :
    let b := unattended "/dev/vda" "https://fdo.example.com" "CERTIFICATE" "ignition: 3.4.0"
    let o : Options := { ostree := some { url := "https://example.com/repo" } }
    ∃ t m, Fedora.registry.get "fedora-40" "aarch64" "iot-simplified-installer" = .ok t ∧
      t.imageType.name = "iot-simplified-installer" ∧ b.WellTyped ∧
      Request.validate t.release.mountpointPolicy t.imageType b o = .ok [] ∧
      build t b o [] 7 = .ok m ∧ (m.render []).Mentions "/dev/vda" ∧
      (m.render []).Mentions "https://fdo.example.com" ∧
      (m.render []).Mentions "ignition: 3.4.0" := by
  intro b o
  obtain ⟨⟨_, _, ⟨d, h₁, h₂, h₃⟩, _⟩, ht, rfl, rfl, hd, -⟩ :=
    Catalog.Fedora.get_simplifiedInstaller
  obtain rfl : d = Catalog.Fedora.drafts[8] := hd
  have hb : b.WellTyped := wellTyped_unattended ..
  have hbuild := provisions_of_validate (o := o) ht rfl hb rfl [] 7
  rcases hbuild with ⟨m, hm, hprovisions, -⟩ | ⟨hsize, -⟩
  · have hmentioned : ∀ s : String, s ≠ "" → .str s ∈ carriedSettings b.settings →
        (m.render []).Mentions s := fun s hs h => hprovisions.mentioned s hs h [] _
    exact ⟨_, m, ht, rfl, hb, rfl, hm,
      hmentioned _ (by decide) (by simp [carriedSettings, b, unattended, Blueprint.settings]),
      hmentioned _ (by decide) (by simp [carriedSettings, b, unattended, Blueprint.settings]),
      hmentioned _ (by decide) (by simp [carriedSettings, b, unattended, Blueprint.settings])⟩
  · exact absurd rfl hsize

/-- However a manifest is written, there are root certificates that are accepted and not in it. -/
theorem not_mentions_rootCerts :
    let o : Options := { ostree := some { url := "https://example.com/repo" } }
    ∃ t, Fedora.registry.get "fedora-40" "aarch64" "iot-simplified-installer" = .ok t ∧
      ∀ repositories seed r nullName, ∃ certs m, certs ≠ "" ∧
        (unattended "/dev/vda" "https://fdo.example.com" certs "").WellTyped ∧
        Request.validate t.release.mountpointPolicy t.imageType
          (unattended "/dev/vda" "https://fdo.example.com" certs "") o = .ok [] ∧
        build t (unattended "/dev/vda" "https://fdo.example.com" certs "") o repositories seed =
          .ok m ∧ ¬ (m.render r nullName).Mentions certs := by
  intro o
  obtain ⟨⟨_, _, ⟨d, h₁, h₂, h₃⟩, _⟩, ht, rfl, rfl, hd, -⟩ :=
    Catalog.Fedora.get_simplifiedInstaller
  obtain rfl : d = Catalog.Fedora.drafts[8] := hd
  refine ⟨_, ht, fun repositories seed r nullName => ?_⟩
  let b := unattended "/dev/vda" "https://fdo.example.com" "CERTIFICATE" ""
  have hb : b.WellTyped := wellTyped_unattended ..
  have hv : Request.validate .standard ⟨Catalog.Fedora.drafts[8], h₁, h₂, h₃⟩ b o = .ok [] := rfl
  have hbuild := build_of_accepted (Catalog.Fedora.listed_of_get ht) (hb.settings.usableFor _)
    (Request.validate_eq_ok.1 hv).1 repositories seed
  rcases hbuild with ⟨m, hm⟩ | ⟨-, hsize, -⟩
  · -- the manifest is the one for all certificates, those included that it does not mention
    obtain ⟨certs, hne, hnot⟩ := (m.render r nullName).exists_not_mentions
    have hcerts : SameGiven b certs := by
      intro fdo hfdo
      obtain rfl := Option.some.inj hfdo
      simpa [Value.truthy] using hne
    exact ⟨certs, m, hne, wellTyped_unattended .., (validate_withRootCerts hcerts ..).trans hv,
      (build_withRootCerts rfl hcerts ..).trans hm, hnot⟩
  · exact absurd rfl hsize

end Imagewright.Manifest
