import Imagewright.Proofs.Blueprint.Kinds
import Imagewright.Proofs.Catalog.Fedora
import Imagewright.Proofs.Request.Rejections

/-!
# Allow-lists

An image type may list the kinds of customizations that it takes. A request that asks for another
kind is told about all such kinds before anything else is looked at, apart from its OSTree options;
a request that is accepted asks for no other kind.

## Main statements

* `Request.checkAllowed_eq_ok`, `Request.checkAllowed_eq_error`: what the check finds out.
* `Request.uses_of_checkAllowed`: no other kinds are used where the check finds nothing.
* `Request.checkAllowed_of_validate`: only this check tells about kinds.
* `Request.validate_of_checkAllowed`: nothing behind this check comes before it.
* `Request.allowed_of_validate`: which kinds an accepted request asks for, and what is told about
  the others.
-/
namespace Imagewright.Request

open Blueprint (Customizations Kind)
open Catalog (ImageType)
open Disk (MountpointPolicy)
open Outcome

/-- Customizations ask for something of a kind that is not on a list. -/
def AsksBeyond (allowed : List Kind) (c : Customizations) (k : Kind) : Prop :=
  k ∉ allowed ∧ c.reset k ≠ c

/-- The check of the OSTree options and that of the place of a commit for an ISO image, which come
before all others, find nothing wrong. -/
structure Addressed (t : ImageType) (o : Options) : Prop where
  ostree : ∀ s, o.ostree = some s → checkOstree s = .ok ()
  bootIsoUrl : (t.family.bootIso && t.family.rpmOstree) = true → o.ostreeUrl.truthy = true

section

variable {policy : MountpointPolicy} {t : ImageType} {b : Blueprint} {o : Options}
  {c : Customizations} {allowed : List Kind}

/-- The kinds that are used and not allowed, in their order. -/
def disallowedKinds (allowed : List Kind) (c : Customizations) : List Kind :=
  c.presentKinds.filter (!allowed.contains ·)

theorem disallowedKinds_sublist : (disallowedKinds allowed c).Sublist Kind.all :=
  List.filter_sublist.trans List.filter_sublist

theorem mem_disallowedKinds (h : c.WellTyped) {k : Kind} :
    k ∈ disallowedKinds allowed c ↔ AsksBeyond allowed c k := by
  rw [disallowedKinds, List.mem_filter, Customizations.mem_presentKinds, AsksBeyond, Ne,
    h.reset_eq_self_iff, Bool.not_eq_false, and_comm]
  simp

theorem require_eq_error {ok : Bool} {r : Rejection} {id : String} {r' : Raised Rejection} :
    require ok r id = .error r' ↔ ok = false ∧ r' = .tagged r id := by
  cases ok <;> simp [require, eq_comm]

theorem checkAllowed_eq (ht : t.allowed = some allowed) (id : String) :
    checkAllowed t c id = require (disallowedKinds allowed c).isEmpty
      (.unsupported t.name t.family.bootIso (disallowedKinds allowed c) allowed) id := by
  rw [checkAllowed, ht]
  rfl

theorem checkAllowed_eq_ok (ht : t.allowed = some allowed) :
    checkAllowed t c = .ok () ↔ disallowedKinds allowed c = [] := by
  rw [checkAllowed_eq ht, require_eq_ok, List.isEmpty_iff]

theorem checkAllowed_eq_error (ht : t.allowed = some allowed) {id : String}
    {r : Raised Rejection} :
    checkAllowed t c id = .error r ↔ disallowedKinds allowed c ≠ [] ∧ r = .tagged
      (.unsupported t.name t.family.bootIso (disallowedKinds allowed c) allowed) id := by
  rw [checkAllowed_eq ht, require_eq_error, ← List.isEmpty_eq_false_iff]

/-- Where the check finds nothing, no kind is used that is not allowed. -/
theorem uses_of_checkAllowed (ht : t.allowed = some allowed) (h : checkAllowed t c = .ok ())
    {k : Kind} (hk : k ∉ allowed) : c.uses k = false := by
  have hnone : k ∉ disallowedKinds allowed c := by
    rw [(checkAllowed_eq_ok ht).1 h]
    exact List.not_mem_nil
  simpa [disallowedKinds, Customizations.mem_presentKinds, hk] using hnone

/-- What is told about kinds, the check of the allowed kinds has found. -/
theorem checkAllowed_of_validate {r : Rejection} (h : validate policy t b o = .error r)
    (hr : r.OfKinds) : ∃ tag, checkAllowed t b.settings = .error ⟨r, tag⟩ := by
  have hother : ∀ {r : Rejection}, ¬ r.OfKinds → r.OfKinds →
      ∃ tag, checkAllowed t b.settings = .error ⟨r, tag⟩ := fun hkinds hr => absurd hr hkinds
  refine of_failsWith_validateFor (P := fun r => r.OfKinds →
    ∃ tag, checkAllowed t b.settings = .error ⟨r, tag⟩) ?_ h hr
  refine failsWith_checks (fun r _ _ hkinds => hother hkinds) (.inr nofun)
    (fun r hr _ => ⟨r.tag, hr⟩) ?_ fun m _ => ⟨fun _ => nofun, fun _ => nofun⟩
  exact failsWith_checkTree (fun r _ hkinds => hother hkinds) (.inr nofun)

/-- Where the addresses are fine, what the check of the allowed kinds finds is the answer. -/
theorem validate_of_checkAllowed (ha : Addressed t o) {r : Rejection} {tag : Option String}
    (h : checkAllowed t b.settings = .error ⟨r, tag⟩) : validate policy t b o = .error r := by
  have hiso : (t.family.bootIso && t.family.rpmOstree) = true →
      require o.ostreeUrl.truthy (.noCommitUrl t.name true) "" = .ok () :=
    fun hiso => require_eq_ok.2 (ha.bootIsoUrl hiso)
  refine Raised.untagged_eq_error.2 ⟨tag, ?_⟩
  unfold validateFor
  cases ho : o.ostree with
  | none =>
    refine (ite_check_of_ok hiso).trans ?_
    rw [h]
    rfl
  | some s =>
    simp only [ha.ostree s ho, ok_bind]
    refine (ite_check_of_ok hiso).trans ?_
    rw [h]
    rfl

/-- An accepted request says nothing in the fields of kinds that are not allowed. One that does, and
whose addresses are fine, is told so before anything else; and what is told are exactly the kinds in
question, in their order, with the list of those that are allowed. -/
theorem allowed_of_validate (ht : t.allowed = some allowed) (hb : b.WellTyped) :
    (∀ ws, validate policy t b o = .ok ws → b.settings.restrict allowed = b.settings) ∧
    (∀ name bootIso told listed,
      validate policy t b o = .error (.unsupported name bootIso told listed) →
        told ≠ [] ∧ told.Sublist Kind.all ∧
        (∀ k, k ∈ told ↔ AsksBeyond allowed b.settings k) ∧ listed = allowed) ∧
    ((∃ k, AsksBeyond allowed b.settings k) → Addressed t o → ∃ told,
      validate policy t b o = .error (.unsupported t.name t.family.bootIso told allowed)) := by
  refine ⟨fun ws h => ?_, fun name bootIso told listed h => ?_, fun ⟨k, hk⟩ ha => ?_⟩
  · exact hb.settings.restrict_eq_self fun k hk =>
      uses_of_checkAllowed ht (validate_eq_ok.1 h).1.allowed hk
  · obtain ⟨tag, hraised⟩ := checkAllowed_of_validate h trivial
    obtain ⟨hne, heq⟩ := (checkAllowed_eq_error ht).1 hraised
    obtain ⟨-, -, rfl, rfl⟩ := Rejection.unsupported.inj (Raised.mk.inj heq).1
    exact ⟨hne, disallowedKinds_sublist, fun k => mem_disallowedKinds hb.settings, rfl⟩
  · have hmem := (mem_disallowedKinds hb.settings).2 hk
    exact ⟨_, validate_of_checkAllowed ha
      ((checkAllowed_eq_error ht).2 ⟨List.ne_nil_of_mem hmem, rfl⟩)⟩

end

/-- A blueprint that asks for the name of the host, for a user and for a key. -/
def hostAndUser (host : String) (user : Text.NonBlank) : Blueprint where
  customizations := some {
    hostname := host
    users := [{ name := user }]
    sshKeys := [⟨user.text, "ssh-ed25519 AAAA"⟩] }

theorem wellTyped_hostAndUser (host : String) (user : Text.NonBlank) :
    (hostAndUser host user).WellTyped := by
  refine .of_customizations ?_
  constructor <;> simp [Blueprint.User.wellTyped, Blueprint.SshKey.wellTyped, Value.orNull,
    Value.isNull, Value.isText]

theorem allowed_of_validate_iotRawImage :
    ∃ t, Catalog.Fedora.registry.get "fedora-40" "aarch64" "iot-raw-image" = .ok t ∧
      t.imageType.allowed = some [.user, .group, .directories, .files, .services] ∧
      (hostAndUser "edge" ⟨"admin", by decide⟩).WellTyped ∧
      validate .standard t.imageType (hostAndUser "edge" ⟨"admin", by decide⟩) {} =
        .error (.unsupported "iot-raw-image" false [.hostname, .sshKey]
          [.user, .group, .directories, .files, .services]) ∧
      ∀ k, k ∈ [Kind.hostname, Kind.sshKey] ↔
        AsksBeyond [.user, .group, .directories, .files, .services]
          (hostAndUser "edge" ⟨"admin", by decide⟩).settings k := by
  obtain ⟨⟨_, _, ⟨d, h₁, h₂, h₃⟩, _⟩, ht, rfl, rfl, hd, -⟩ := Catalog.Fedora.get_iotRawImage
  obtain rfl : d = Catalog.Fedora.drafts[7] := hd
  have hallowed : (⟨Catalog.Fedora.drafts[7], h₁, h₂, h₃⟩ : ImageType).allowed =
      some [.user, .group, .directories, .files, .services] := rfl
  have hb := wellTyped_hostAndUser "edge" ⟨"admin", by decide⟩
  have hv : validate .standard ⟨Catalog.Fedora.drafts[7], h₁, h₂, h₃⟩
      (hostAndUser "edge" ⟨"admin", by decide⟩) {} =
        .error (.unsupported "iot-raw-image" false [.hostname, .sshKey]
          [.user, .group, .directories, .files, .services]) := rfl
  obtain ⟨-, htold, -⟩ := allowed_of_validate hallowed hb
  exact ⟨_, ht, hallowed, hb, hv, (htold _ _ _ _ hv).2.2.1⟩

end Imagewright.Request
