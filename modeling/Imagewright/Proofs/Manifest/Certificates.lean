import Imagewright.Proofs.Manifest.Steps

/-!
# Certificates that a manifest does not depend on

Of the root certificates for onboarding, a simplified installer looks only at whether there are any.

## Main definitions

* `Blueprint.withRootCerts`: a blueprint with other root certificates.
* `Manifest.SameGiven`: the old and the new ones are both given or both not.

## Main statements

* `Manifest.validate_withRootCerts`: whether a request is accepted does not depend on them.
* `Manifest.build_withRootCerts`: the manifest does not depend on them.
-/
namespace Imagewright

/-- The customizations with other root certificates for onboarding. -/
def Blueprint.Customizations.withRootCerts (c : Customizations) (certs : Value) : Customizations :=
  { c with fdo := c.fdo.map ({ · with diunPubKeyRootCerts := certs }) }

/-- The blueprint with other root certificates for onboarding. -/
def Blueprint.withRootCerts (b : Blueprint) (certs : Value) : Blueprint :=
  { b with customizations := b.customizations.map (·.withRootCerts certs) }

namespace Manifest

open Blueprint (Customizations)
open Catalog (Target)
open Request (Options)

/-- The root certificates that are asked for and others are both given or both not. -/
def SameGiven (b : Blueprint) (certs : Value) : Prop :=
  ∀ fdo ∈ b.settings.fdo, certs.truthy = fdo.diunPubKeyRootCerts.truthy

section

variable {b : Blueprint} {certs : Value}

theorem settings_withRootCerts (b : Blueprint) (certs : Value) :
    (b.withRootCerts certs).settings = b.settings.withRootCerts certs := by
  unfold Blueprint.settings Blueprint.withRootCerts
  cases b.customizations <;> rfl

theorem specs_withRootCerts (b : Blueprint) (certs : Value) :
    (b.withRootCerts certs).specs = b.specs := by
  simp only [Blueprint.specs, settings_withRootCerts]
  rfl

theorem presentKinds_withRootCerts (c : Customizations) (certs : Value) :
    (c.withRootCerts certs).presentKinds = c.presentKinds := by
  have huses : (c.withRootCerts certs).uses = c.uses := by
    funext k
    cases k <;> simp [Customizations.uses, Customizations.withRootCerts]
  rw [Customizations.presentKinds, huses, Customizations.presentKinds]

theorem checkSimplifiedInstaller_withRootCerts (h : SameGiven b certs) (imageType : String) :
    Request.checkSimplifiedInstaller imageType (b.settings.withRootCerts certs) =
      Request.checkSimplifiedInstaller imageType b.settings := by
  simp only [Request.checkSimplifiedInstaller, Customizations.withRootCerts]
  cases hfdo : b.settings.fdo with
  | none => rfl
  | some fdo =>
    simp [Request.checkOnboarding, Blueprint.FdoSettings.diunOptions, h fdo hfdo]

theorem validate_withRootCerts (h : SameGiven b certs) (policy : Disk.MountpointPolicy)
    (t : Catalog.ImageType) (o : Options) :
    Request.validate policy t (b.withRootCerts certs) o = Request.validate policy t b o := by
  have hallowed : Request.checkAllowed t (b.settings.withRootCerts certs) "" =
      Request.checkAllowed t b.settings "" := by
    simp only [Request.checkAllowed, presentKinds_withRootCerts]
  have hwarnings : Request.warnings t (b.withRootCerts certs) o = Request.warnings t b o := by
    simp only [Request.warnings, specs_withRootCerts]
  unfold Request.validate Request.validateFor
  simp only [settings_withRootCerts, checkSimplifiedInstaller_withRootCerts h, hallowed, hwarnings]
  rfl

theorem onboardingOptions_withRootCerts {fdo : Blueprint.FdoSettings}
    (h : certs.truthy = fdo.diunPubKeyRootCerts.truthy) :
    onboardingOptions { fdo with diunPubKeyRootCerts := certs } = onboardingOptions fdo := by
  simp only [onboardingOptions, h]

/-- The context with other root certificates for onboarding. -/
def Context.withRootCerts (c : Context) (certs : Value) : Context :=
  { c with blueprint := c.blueprint.withRootCerts certs }

theorem kernelOptions_withRootCerts (t : Target) (b : Blueprint) (certs : Value) :
    t.kernelOptions (b.withRootCerts certs) = t.kernelOptions b := by
  simp only [Target.kernelOptions, settings_withRootCerts]
  rfl

theorem simplifiedKernelOptions_withRootCerts (c : Context) (h : SameGiven c.blueprint certs)
    (imageFile : String) :
    simplifiedKernelOptions (c.withRootCerts certs) imageFile =
      simplifiedKernelOptions c imageFile := by
  have hsettings : (c.withRootCerts certs).settings = c.settings.withRootCerts certs :=
    settings_withRootCerts ..
  have hkernel : (c.withRootCerts certs).kernelOptions = c.kernelOptions := by
    simp only [Context.kernelOptions, Context.withRootCerts, kernelOptions_withRootCerts]
  simp only [simplifiedKernelOptions, hsettings, hkernel, Customizations.withRootCerts]
  cases hfdo : c.settings.fdo with
  | none => rfl
  | some fdo =>
    simp only [Option.map_some, onboardingOptions_withRootCerts (h fdo hfdo)]
    rfl

theorem deploymentPipeline_withRootCerts (c : Context) (certs : Value) :
    deploymentPipeline (c.withRootCerts certs) = deploymentPipeline c := by
  obtain ⟨target, ⟨_, _, _, _, _, _, customizations⟩, options, repositories, chains, table⟩ := c
  cases customizations <;> rfl

theorem simplifiedInstallerManifest_withRootCerts (c : Context)
    (h : SameGiven c.blueprint certs) :
    simplifiedInstallerManifest (c.withRootCerts certs) = simplifiedInstallerManifest c := by
  simp only [simplifiedInstallerManifest, simplifiedKernelOptions_withRootCerts c h,
    deploymentPipeline_withRootCerts]
  obtain ⟨target, ⟨_, _, _, _, _, _, customizations⟩, options, repositories, chains, table⟩ := c
  cases customizations <;> rfl

theorem build_withRootCerts {t : Target} (hf : t.family = .simplifiedInstaller)
    (h : SameGiven b certs) (o : Options) (repositories : List Repository) (seed : Int) :
    build t (b.withRootCerts certs) o repositories seed = build t b o repositories seed := by
  have hplan : planTable t (b.withRootCerts certs) o (Random.Twister.ofSeed seed) =
      planTable t b o (Random.Twister.ofSeed seed) := by
    simp only [planTable, settings_withRootCerts]
    rfl
  have hcontext : ∀ table, contextOf t (b.withRootCerts certs) o repositories table =
      (contextOf t b o repositories table).withRootCerts certs := by
    intro table
    simp only [contextOf, packageChains, specs_withRootCerts]
    rfl
  have hassemble : ∀ table, assemble (contextOf t (b.withRootCerts certs) o repositories table) =
      assemble (contextOf t b o repositories table) := by
    intro table
    have hfamily : (contextOf t b o repositories table).target.family = .simplifiedInstaller := hf
    have hother : ((contextOf t b o repositories table).withRootCerts certs).target.family =
      .simplifiedInstaller := hf
    rw [hcontext, assemble, assemble, hfamily, hother]
    exact simplifiedInstallerManifest_withRootCerts _ h
  simp only [build_eq, hplan, hassemble]

end

end Manifest
end Imagewright
