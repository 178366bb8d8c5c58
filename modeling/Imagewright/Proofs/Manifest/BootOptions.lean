import Imagewright.Proofs.Manifest.Totality

/-!
# Boot options of a simplified installer

A simplified installer boots with options of its own, then with the words of the kernel command
line. Most of its options are a name and a setting behind it; two for onboarding are flags.

## Main definitions

* `Manifest.onboardingTexts`, `Manifest.installerTexts`: the options of the installer.
* `Manifest.insecureOption`, `Manifest.rootCertsOption`: the flags.

## Main statements

* `Text.words_intercalate`: the words of joined texts are those of the texts.
* `Manifest.words_kernelOptions`: the words of a kernel command line.
* `Manifest.simplifiedKernelOptions_eq_ok`: the boot options of a simplified installer.
* `Manifest.mem_onboardingTexts`, `Manifest.mem_installerTexts`: which flags are among them.
-/
namespace Imagewright

/-! ## Words -/

namespace Text

theorem wordsFrom_append_blank {c : Char} (hc : isBlank c = true) (run before behind : List Char) :
    wordsFrom run (before ++ c :: behind) = wordsFrom run before ++ wordsFrom [] behind := by
  induction before generalizing run with
  | nil => cases run <;> simp [wordsFrom, hc]
  | cons d before ih =>
    rw [List.cons_append, wordsFrom, wordsFrom]
    split
    · split
      · exact ih []
      · rw [ih, List.cons_append]
    · exact ih (d :: run)

/-- The words of joined texts are those of the texts. -/
theorem words_intercalate (texts : List String) :
    words (" ".intercalate texts) = texts.flatMap words := by
  induction texts with
  | nil => rfl
  | cons s texts ih =>
    cases texts with
    | nil => simp
    | cons t texts =>
      rw [String.intercalate_cons_cons, List.flatMap_cons, ← ih, words, String.toList_append,
        String.toList_append, List.append_assoc]
      change List.map _ (wordsFrom [] (s.toList ++ ' ' :: _)) = _
      rw [wordsFrom_append_blank (by decide), List.map_append]
      rfl

end Text

namespace Manifest

open Catalog (Target)
open Outcome

def insecureOption : String := "fdo.diun_pub_key_insecure=true"

def rootCertsOption : String := "fdo.diun_pub_key_root_certs=/fdo_diun_pub_key_root_certs.pem"

/-! ## Options of the installer -/

/-- A setting whose value is not empty, as an option. -/
def optionOf (name : String) (v : Value) : List String :=
  if v.truthy then [name ++ v.text] else []

/-- The options for onboarding. -/
def onboardingTexts (fdo : Blueprint.FdoSettings) : List String :=
  ["fdo.manufacturing_server_url=" ++ fdo.manufacturingServerUrl.text] ++
    (if fdo.diunPubKeyInsecure then [insecureOption] else []) ++
    optionOf "fdo.diun_pub_key_hash=" fdo.diunPubKeyHash ++
    if fdo.diunPubKeyRootCerts.truthy then [rootCertsOption] else []

/-- The options of a simplified installer, apart from those of the kernel command line. -/
def installerTexts (c : Context) (imageFile : String) : List String :=
  [ "rd.neednet=1",
    "coreos.inst.crypt_root=1",
    "coreos.inst.isoroot=" ++ c.isoLabel,
    "coreos.inst.install_dev=" ++ c.settings.installationDevice.text,
    "coreos.inst.image_file=/run/media/iso/" ++ imageFile,
    "coreos.inst.insecure"] ++
  (c.settings.fdo.map onboardingTexts).getD [] ++
  (c.settings.ignition.map fun s => optionOf "ignition.config.url=" s.firstbootUrl).getD []

theorem textOption_eq_ok {v : Value} (h : v.isText = true) (name : String) :
    textOption name v = .ok (name ++ v.text) := by
  obtain ⟨s, rfl⟩ := Value.isText_iff.1 h
  rfl

theorem optionalTextOption_eq_ok {v : Value} (h : v.isText = true) (name : String) :
    optionalTextOption name v = .ok (optionOf name v) := by
  unfold optionalTextOption optionOf
  split
  · rw [textOption_eq_ok h]
    rfl
  · rfl

theorem onboardingOptions_eq_ok {fdo : Blueprint.FdoSettings} (h : fdo.wellTyped = true) :
    onboardingOptions fdo = .ok (onboardingTexts fdo) := by
  simp only [Blueprint.FdoSettings.wellTyped, List.all_cons, Bool.and_eq_true] at h
  rw [onboardingOptions, textOption_eq_ok h.1, ok_bind, optionalTextOption_eq_ok h.2.1]
  rfl

section

variable {c : Context}

/-- The boot options of a simplified installer. -/
theorem simplifiedKernelOptions_eq_ok (hw : c.settings.WellTyped) {imageFile : String}
    {options : List String} :
    simplifiedKernelOptions c imageFile = .ok options ↔ ∃ commandLine,
      c.kernelOptions = .ok commandLine ∧
        installerTexts c imageFile ++ Text.words commandLine = options := by
  have hdevice : liftM (textOption "coreos.inst.install_dev=" c.settings.installationDevice) =
      (.ok ("coreos.inst.install_dev=" ++ c.settings.installationDevice.text) :
        Except AssemblyError String) :=
    liftM_mismatch_eq_ok.2 (textOption_eq_ok hw.installationDevice _)
  have honboarding : ∀ fdo ∈ c.settings.fdo,
      liftM (onboardingOptions fdo) = (.ok (onboardingTexts fdo) : Except AssemblyError _) :=
    fun fdo hfdo => liftM_mismatch_eq_ok.2 (onboardingOptions_eq_ok (hw.fdo fdo hfdo))
  have hprovisioning : ∀ s ∈ c.settings.ignition,
      liftM (optionalTextOption "ignition.config.url=" s.firstbootUrl) =
        (.ok (optionOf "ignition.config.url=" s.firstbootUrl) : Except AssemblyError _) := by
    intro s hs
    have htexts := hw.ignition s hs
    simp only [Blueprint.IgnitionSettings.wellTyped, List.all_cons, Bool.and_eq_true] at htexts
    exact liftM_mismatch_eq_ok.2 (optionalTextOption_eq_ok htexts.2.1 _)
  unfold simplifiedKernelOptions installerTexts
  rw [hdevice, ok_bind]
  cases hfdo : c.settings.fdo <;> cases hignition : c.settings.ignition <;>
    simp [honboarding, hprovisioning, hfdo, hignition, map_eq_ok]

theorem ne_append_of_isPrefixOf {name text : String}
    (h : name.toList.isPrefixOf text.toList = false) (value : String) : text ≠ name ++ value := by
  rintro rfl
  rw [String.toList_append, ← Bool.not_eq_true, List.isPrefixOf_iff_prefix] at h
  exact h (List.prefix_append ..)

theorem notMem_optionOf {name text : String}
    (h : name.toList.isPrefixOf text.toList = false) (v : Value) : text ∉ optionOf name v := by
  unfold optionOf
  split
  · simpa using ne_append_of_isPrefixOf h _
  · exact List.not_mem_nil

/-- The options without values, of which there are two for onboarding. -/
theorem mem_onboardingTexts {fdo : Blueprint.FdoSettings} {flag : String}
    (hflag : flag = insecureOption ∨ flag = rootCertsOption) :
    flag ∈ onboardingTexts fdo ↔ flag = insecureOption ∧ fdo.diunPubKeyInsecure = true ∨
      flag = rootCertsOption ∧ fdo.diunPubKeyRootCerts.truthy = true := by
  have hserver : "fdo.manufacturing_server_url=".toList.isPrefixOf flag.toList = false := by
    rcases hflag with rfl | rfl <;> decide
  have hhash : "fdo.diun_pub_key_hash=".toList.isPrefixOf flag.toList = false := by
    rcases hflag with rfl | rfl <;> decide
  simp only [onboardingTexts, List.mem_append, List.mem_singleton, ne_append_of_isPrefixOf hserver,
    notMem_optionOf hhash, false_or, or_false]
  cases fdo.diunPubKeyInsecure <;> cases fdo.diunPubKeyRootCerts.truthy <;> simp

theorem mem_installerTexts {flag imageFile : String}
    (hflag : flag = insecureOption ∨ flag = rootCertsOption) :
    flag ∈ installerTexts c imageFile ↔ ∃ fdo ∈ c.settings.fdo, flag ∈ onboardingTexts fdo := by
  have hnames : ∀ name ∈ ["coreos.inst.isoroot=", "coreos.inst.install_dev=",
      "coreos.inst.image_file=/run/media/iso/", "ignition.config.url="],
      name.toList.isPrefixOf flag.toList = false := by
    rcases hflag with rfl | rfl <;> decide
  have hconstants :
      flag ∉ ["rd.neednet=1", "coreos.inst.crypt_root=1", "coreos.inst.insecure"] := by
    rcases hflag with rfl | rfl <;> decide
  have hprovisioning : flag ∉ (c.settings.ignition.map fun s =>
      optionOf "ignition.config.url=" s.firstbootUrl).getD [] := by
    cases c.settings.ignition with
    | none => exact List.not_mem_nil
    | some s => exact notMem_optionOf (hnames _ (by simp)) _
  have honboarding : flag ∈ (c.settings.fdo.map onboardingTexts).getD [] ↔
      ∃ fdo ∈ c.settings.fdo, flag ∈ onboardingTexts fdo := by
    cases c.settings.fdo <;> simp
  simp only [List.mem_cons, List.not_mem_nil, or_false, not_or] at hconstants
  simp only [installerTexts, List.mem_append, List.mem_cons, List.not_mem_nil, or_false, hconstants,
    ne_append_of_isPrefixOf (hnames "coreos.inst.isoroot=" (by simp)),
    ne_append_of_isPrefixOf (hnames "coreos.inst.install_dev=" (by simp)),
    ne_append_of_isPrefixOf (hnames "coreos.inst.image_file=/run/media/iso/" (by simp)),
    hprovisioning, honboarding, false_or]

/-! ## The kernel command line -/

theorem mapM_asText_filter (texts : List String) :
    ((texts.map Value.str).filter Value.truthy).mapM Value.asText =
      .ok (texts.filter (· != "")) := by
  induction texts with
  | nil => rfl
  | cons s texts ih =>
    rw [List.map_cons, List.filter_cons, List.filter_cons, Value.truthy]
    split
    · rw [List.mapM_cons, ih]
      rfl
    · exact ih

theorem flatMap_words_filter (texts : List String) :
    (texts.filter (· != "")).flatMap Text.words = texts.flatMap Text.words := by
  induction texts with
  | nil => rfl
  | cons s texts ih =>
    rw [List.filter_cons]
    split
    · rw [List.flatMap_cons, List.flatMap_cons, ih]
    · next hs =>
      obtain rfl : s = "" := by simpa using hs
      exact ih

/-- The words of a kernel command line. -/
theorem words_kernelOptions {t : Target} {b : Blueprint} (hw : b.settings.WellTyped)
    {commandLine : String} (h : t.kernelOptions b = .ok commandLine) :
    Text.words commandLine = Text.words t.imageType.kernelOptions ++
      Text.words b.settings.kernelAppend.text ++
        if b.settings.fips.truthy then ["fips=1"] else [] := by
  obtain ⟨append, happend⟩ := hw.kernelAppend
  have htexts : [.str t.imageType.kernelOptions, b.settings.kernelAppend] ++
      (if b.settings.fips.truthy then [.str "fips=1"] else []) =
        ([t.imageType.kernelOptions, append] ++
          if b.settings.fips.truthy then ["fips=1"] else []).map Value.str := by
    rw [happend]
    split <;> rfl
  simp only [Target.kernelOptions, htexts, mapM_asText_filter, ok_bind, pure_eq_ok] at h
  have hfips : Text.words "fips=1" = ["fips=1"] := rfl
  rw [← h, Text.words_intercalate, flatMap_words_filter, happend]
  split <;> simp [Value.text, hfips]

end

end Manifest
end Imagewright
