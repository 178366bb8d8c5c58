import Imagewright.Blueprint.Basic
import Imagewright.Proofs.Outcome

/-!
# Well-typed blueprints

A blueprint carries most settings along as the values that its document holds. In a well-typed one
each field holds what it is declared to hold.

## Main definitions

* `Value.isText`, `Value.isInteger`, `Value.isBool`, `Value.orNull`: the declared types.
* `Blueprint.WellTyped`: each field of a blueprint holds a value of its type.

## Main statements

* `Blueprint.WellTyped.settings`: a blueprint without customizations has well-typed ones.
* `Blueprint.Customizations.WellTyped.isText_directory`, `isText_file`: what well-typed
  customizations hold.
-/
namespace Imagewright

/-! ## Types of values -/

namespace Value

def isText : Value → Bool
  | .str _ => true
  | _ => false

/-- The value is a whole number. Truth values count as one and zero. -/
def isInteger : Value → Bool
  | .int _ | .bool _ => true
  | _ => false

def isBool : Value → Bool
  | .bool _ => true
  | _ => false

/-- The value is null or of a type. -/
def orNull (type : Value → Bool) (v : Value) : Bool := v.isNull || type v

theorem isText_iff {v : Value} : v.isText = true ↔ ∃ s : String, v = s := by
  cases v <;> simp [isText]

theorem isAtomic_of_isText {v : Value} (h : v.isText = true) : v.isAtomic = true := by
  obtain ⟨s, rfl⟩ := isText_iff.1 h
  rfl

theorem succeeds_asText {v : Value} (h : v.isText = true) : Outcome.Succeeds v.asText := by
  obtain ⟨s, rfl⟩ := isText_iff.1 h
  exact Outcome.succeeds_ok s

end Value

/-! ## Types of settings -/

namespace Blueprint

open Value (isText isInteger isBool orNull)

def KernelSettings.wellTyped (k : KernelSettings) : Bool := k.name.isText && k.append.isText

def SshKey.wellTyped (k : SshKey) : Bool := k.user.isText && k.key.isText

/-- Texts and numbers, if they are given, and the names of groups. -/
def User.wellTyped (u : User) : Bool :=
  [u.description, u.password, u.key, u.home, u.shell].all (orNull isText) &&
    u.groups.all isText && [u.uid, u.gid].all (orNull isInteger)

/-- A number, if it is given. -/
def Group.wellTyped (g : Group) : Bool := g.gid.orNull isInteger

/-- A text, if it is given, and the names of servers. -/
def TimezoneSettings.wellTyped (s : TimezoneSettings) : Bool :=
  s.timezone.orNull isText && s.ntpServers.all isText

/-- The names of languages, and a text, if it is given. -/
def LocaleSettings.wellTyped (s : LocaleSettings) : Bool :=
  s.languages.all isText && s.keyboard.orNull isText

def FirewallSettings.wellTyped (s : FirewallSettings) : Bool :=
  (s.ports ++ s.enabledServices ++ s.disabledServices).all isText

def ServiceSettings.wellTyped (s : ServiceSettings) : Bool :=
  (s.enabled ++ s.disabled ++ s.masked).all isText

def FdoSettings.wellTyped (s : FdoSettings) : Bool :=
  [s.manufacturingServerUrl, s.diunPubKeyHash, s.diunPubKeyRootCerts].all isText

def IgnitionSettings.wellTyped (s : IgnitionSettings) : Bool :=
  [s.embeddedConfig, s.firstbootUrl].all isText

def OpenscapSettings.wellTyped (s : OpenscapSettings) : Bool :=
  [s.profileId, s.datastream].all isText

def InstallerSettings.wellTyped (s : InstallerSettings) : Bool := s.sudoNopasswd.all isText

/-- A path, and texts, if they are given. -/
def Directory.wellTyped (d : Directory) : Bool :=
  d.path.isText && [d.user, d.group, d.mode].all (orNull isText)

/-- A path, and texts, if they are given. -/
def File.wellTyped (f : File) : Bool :=
  f.path.isText && [f.user, f.group, f.mode, f.data].all (orNull isText)

/-- Each field of the customizations holds a value of its type. -/
structure Customizations.WellTyped (c : Customizations) : Prop where
  hostname : c.hostname.orNull isText = true
  kernel : ∀ k ∈ c.kernel, k.wellTyped = true
  sshKeys : ∀ k ∈ c.sshKeys, k.wellTyped = true
  users : ∀ u ∈ c.users, u.wellTyped = true
  groups : ∀ g ∈ c.groups, g.wellTyped = true
  timezone : ∀ s ∈ c.timezone, s.wellTyped = true
  locale : ∀ s ∈ c.locale, s.wellTyped = true
  firewall : ∀ s ∈ c.firewall, s.wellTyped = true
  services : ∀ s ∈ c.services, s.wellTyped = true
  filesystem : ∀ r ∈ c.filesystem, r.mountpoint.isText = true
  installationDevice : c.installationDevice.isText = true
  fdo : ∀ s ∈ c.fdo, s.wellTyped = true
  openscap : ∀ s ∈ c.openscap, s.wellTyped = true
  ignition : ∀ s ∈ c.ignition, s.wellTyped = true
  directories : ∀ d ∈ c.directories, d.wellTyped = true
  files : ∀ f ∈ c.files, f.wellTyped = true
  fips : c.fips.orNull isBool = true
  installer : ∀ s ∈ c.installer, s.wellTyped = true

def Package.wellTyped (p : Package) : Bool := p.version.isText

end Blueprint

/-- Each field of a blueprint holds a value of its type. -/
structure Blueprint.WellTyped (b : Blueprint) : Prop where
  packages : ∀ p ∈ b.packages, p.wellTyped = true
  modules : ∀ p ∈ b.modules, p.wellTyped = true
  groups : ∀ g ∈ b.groups, g.isText = true
  customizations : ∀ c ∈ b.customizations, c.WellTyped

namespace Blueprint

/-! ## Settings of well-typed blueprints -/

theorem Customizations.wellTyped_default : WellTyped {} := by
  constructor <;> simp [Value.orNull, Value.isNull, Value.isText]

/-- A blueprint that asks for customizations alone. -/
theorem WellTyped.of_customizations {c : Customizations} (h : c.WellTyped) :
    Blueprint.WellTyped { customizations := some c } where
  packages := by simp
  modules := by simp
  groups := by simp
  customizations _ hc := Option.some.inj hc ▸ h

theorem WellTyped.settings {b : Blueprint} (h : b.WellTyped) : b.settings.WellTyped := by
  unfold Blueprint.settings
  cases hc : b.customizations with
  | none => exact Customizations.wellTyped_default
  | some c => exact h.customizations c hc

theorem Customizations.WellTyped.kernelAppend {c : Customizations} (h : c.WellTyped) :
    ∃ s : String, c.kernelAppend = s := by
  unfold Customizations.kernelAppend
  cases hk : c.kernel with
  | none => exact ⟨"", rfl⟩
  | some k =>
    have hw := h.kernel k hk
    simp only [KernelSettings.wellTyped, Bool.and_eq_true, Value.isText_iff] at hw
    exact hw.2

section

variable {c : Customizations} {d : Directory} {f : File}

theorem Customizations.WellTyped.isText_directory (h : c.WellTyped) (hd : d ∈ c.directories) :
    d.path.isText = true := by
  have hw := h.directories d hd
  simp only [Directory.wellTyped, Bool.and_eq_true] at hw
  exact hw.1

theorem Customizations.WellTyped.mode_directory (h : c.WellTyped) (hd : d ∈ c.directories) :
    d.mode.orNull Value.isText = true := by
  have hw := h.directories d hd
  simp only [Directory.wellTyped, Bool.and_eq_true, List.all_eq_true] at hw
  exact hw.2 d.mode (by simp)

theorem Customizations.WellTyped.isText_file (h : c.WellTyped) (hf : f ∈ c.files) :
    f.path.isText = true := by
  have hw := h.files f hf
  simp only [File.wellTyped, Bool.and_eq_true] at hw
  exact hw.1

theorem Customizations.WellTyped.orNull_file (h : c.WellTyped) (hf : f ∈ c.files) :
    ∀ v ∈ [f.user, f.group, f.mode, f.data], v.orNull Value.isText = true := by
  have hw := h.files f hf
  simp only [File.wellTyped, Bool.and_eq_true, List.all_eq_true] at hw
  exact hw.2

theorem Customizations.WellTyped.mode_file (h : c.WellTyped) (hf : f ∈ c.files) :
    f.mode.orNull Value.isText = true := h.orNull_file hf f.mode (by simp)

theorem Customizations.WellTyped.data_file (h : c.WellTyped) (hf : f ∈ c.files) :
    f.data.orNull Value.isText = true := h.orNull_file hf f.data (by simp)

end

end Blueprint
end Imagewright
