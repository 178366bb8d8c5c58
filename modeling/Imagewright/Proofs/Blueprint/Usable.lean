import Imagewright.Catalog.Family
import Imagewright.Proofs.Blueprint.WellTyped

/-!
# Blueprints whose values can be used

Most values of a blueprint are handed on as they are. A few are used as texts, as keys or to compare
them with others, and have to be what can be used so.

## Main definitions

* `Blueprint.Customizations.Usable`: the values that any image uses can be used.
* `Blueprint.Customizations.UsableFor`: so can those that an image of a family uses.

## Main statements

* `Blueprint.Customizations.WellTyped.usableFor`: well-typed values can be used.
-/
namespace Imagewright

/-- A value that is not false is of a type. -/
def Value.orFalse (type : Value → Bool) (v : Value) : Bool := !v.truthy || type v

namespace Blueprint

open Value (isText isAtomic orFalse orNull)

/-- Units can be compared, and those that are listed twice are named by texts. -/
structure ServiceSettings.Usable (s : ServiceSettings) : Prop where
  atomic : ∀ v ∈ s.enabled ++ s.disabled, v.isAtomic = true
  both : ∀ v ∈ s.enabled, v.isIn s.disabled = true → v.isText = true

namespace Customizations

/-- The values that any image uses can be used. -/
structure Usable (c : Customizations) : Prop where
  mountpoints : ∀ r ∈ c.filesystem, r.mountpoint.isText = true
  directories : ∀ d ∈ c.directories, d.path.isText = true ∧ d.mode.orNull isText = true
  files : ∀ f ∈ c.files, f.path.isText = true ∧ f.mode.orNull isText = true
  units : ∀ s ∈ c.services, s.Usable
  keys : ∀ k ∈ c.sshKeys, k.user.isAtomic = true
  kernelAppend : c.kernelAppend.orFalse isText = true

/-- The values that a simplified installer uses for its kernel options are texts. -/
structure Installable (c : Customizations) : Prop where
  device : c.installationDevice.orFalse isText = true
  onboarding : ∀ s ∈ c.fdo,
    [s.manufacturingServerUrl, s.diunPubKeyHash].all (orFalse isText) = true
  provisioning : ∀ s ∈ c.ignition, s.firstbootUrl.orFalse isText = true

/-- The values that an image of a family uses can be used. -/
structure UsableFor (family : Catalog.Family) (c : Customizations) : Prop where
  usable : c.Usable
  installable : family = .simplifiedInstaller → c.Installable

end Customizations
end Blueprint

/-! ## Values that are used as texts -/

theorem Value.orFalse_of_isText {v : Value} (h : v.isText = true) :
    v.orFalse isText = true := by
  simp [orFalse, h]

theorem Value.isText_of_orFalse {v : Value} (h : v.orFalse isText = true)
    (ht : v.truthy = true) : v.isText = true := by
  simpa [orFalse, ht] using h

/-! ## Well-typed blueprints -/

namespace Blueprint

theorem ServiceSettings.usable_of_wellTyped {s : ServiceSettings} (h : s.wellTyped = true) :
    s.Usable := by
  rw [ServiceSettings.wellTyped, List.all_eq_true] at h
  have htext : ∀ v ∈ s.enabled ++ s.disabled, v.isText = true :=
    fun v hv => h v (List.mem_append_left _ hv)
  exact ⟨fun v hv => Value.isAtomic_of_isText (htext v hv),
    fun v hv _ => htext v (List.mem_append_left _ hv)⟩

namespace Customizations.WellTyped

variable {c : Customizations}

theorem usable (h : c.WellTyped) : c.Usable where
  mountpoints := h.filesystem
  directories _ hd := ⟨h.isText_directory hd, h.mode_directory hd⟩
  files _ hf := ⟨h.isText_file hf, h.mode_file hf⟩
  units s hs := s.usable_of_wellTyped (h.services s hs)
  keys k hk := by
    have hw := h.sshKeys k hk
    simp only [SshKey.wellTyped, Bool.and_eq_true] at hw
    exact Value.isAtomic_of_isText hw.1
  kernelAppend := by
    obtain ⟨append, happend⟩ := h.kernelAppend
    exact Value.orFalse_of_isText (Value.isText_iff.2 ⟨append, happend⟩)

theorem installable (h : c.WellTyped) : c.Installable where
  device := Value.orFalse_of_isText h.installationDevice
  onboarding s hs := by
    have hw := h.fdo s hs
    simp only [FdoSettings.wellTyped, List.all_cons, Bool.and_eq_true] at hw
    simp [Value.orFalse_of_isText hw.1, Value.orFalse_of_isText hw.2.1]
  provisioning s hs := by
    have hw := h.ignition s hs
    simp only [IgnitionSettings.wellTyped, List.all_cons, Bool.and_eq_true] at hw
    exact Value.orFalse_of_isText hw.2.1

/-- Well-typed values can be used. -/
theorem usableFor (h : c.WellTyped) (family : Catalog.Family) : c.UsableFor family :=
  ⟨h.usable, fun _ => h.installable⟩

end Customizations.WellTyped
end Blueprint
end Imagewright
