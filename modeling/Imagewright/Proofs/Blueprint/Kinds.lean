import Imagewright.Proofs.Blueprint.WellTyped

/-!
# Kinds of customizations and their fields

Each kind of customizations stands for one field. A blueprint uses a kind exactly if that field
holds something else than in a blueprint that asks for nothing.

## Main definitions

* `Blueprint.Customizations.reset`: the field of a kind is as if nothing was asked for.
* `Blueprint.Customizations.restrict`: only the fields of some kinds are kept.

## Main statements

* `Blueprint.Customizations.WellTyped.reset_eq_self_iff`: a kind is used exactly if its field
  differs from the default.
* `Blueprint.Customizations.mem_presentKinds`: the kinds that are reported are those that are used.
-/
namespace Imagewright

theorem Value.isNull_iff {v : Value} : v.isNull = true ↔ v = .null := by
  cases v <;> simp [isNull]

theorem Value.truthy_iff_of_isText {v : Value} (h : v.isText = true) :
    v.truthy = true ↔ v ≠ "" := by
  obtain ⟨s, rfl⟩ := isText_iff.1 h
  simp [truthy]

namespace Blueprint.Customizations

/-- Customizations of which no field says anything. -/
def blank : Customizations := {}

/-- The customizations whose field of a kind is as if nothing was asked for. -/
def reset (c : Customizations) : Kind → Customizations
  | .hostname => { c with hostname := blank.hostname }
  | .kernel => { c with kernel := blank.kernel }
  | .sshKey => { c with sshKeys := blank.sshKeys }
  | .user => { c with users := blank.users }
  | .group => { c with groups := blank.groups }
  | .timezone => { c with timezone := blank.timezone }
  | .locale => { c with locale := blank.locale }
  | .firewall => { c with firewall := blank.firewall }
  | .services => { c with services := blank.services }
  | .filesystem => { c with filesystem := blank.filesystem }
  | .installationDevice => { c with installationDevice := blank.installationDevice }
  | .fdo => { c with fdo := blank.fdo }
  | .openscap => { c with openscap := blank.openscap }
  | .ignition => { c with ignition := blank.ignition }
  | .directories => { c with directories := blank.directories }
  | .files => { c with files := blank.files }
  | .fips => { c with fips := blank.fips }
  | .installer => { c with installer := blank.installer }

/-- The customizations of some kinds alone: every field of another kind is reset. -/
def restrict (c : Customizations) (kinds : List Kind) : Customizations :=
  (Kind.all.filter (· ∉ kinds)).foldl reset c

variable {c : Customizations}

/-- A kind is used exactly if its field differs from the default. -/
theorem WellTyped.reset_eq_self_iff (h : c.WellTyped) (k : Kind) :
    c.reset k = c ↔ c.uses k = false := by
  have hdevice := Value.truthy_iff_of_isText h.installationDevice
  obtain ⟨⟩ := c
  rw [eq_comm]
  cases k with
  | hostname | fips => simp [reset, uses, blank, Value.isNull_iff]
  | installationDevice =>
    rw [uses, ← Bool.not_eq_true, hdevice, not_not]
    simp [reset, blank]
  | _ => simp [reset, uses, blank]

/-- The kinds that are reported are those that are used. -/
theorem mem_presentKinds {k : Kind} : k ∈ c.presentKinds ↔ c.uses k = true := by
  simp [presentKinds, Kind.mem_all]

theorem foldl_reset_of_unused (h : c.WellTyped) {kinds : List Kind}
    (hk : ∀ k ∈ kinds, c.uses k = false) : kinds.foldl reset c = c := by
  induction kinds with
  | nil => rfl
  | cons k kinds ih =>
    obtain ⟨hfirst, hrest⟩ := List.forall_mem_cons.1 hk
    rw [List.foldl_cons, (h.reset_eq_self_iff k).2 hfirst, ih hrest]

/-- Customizations that use some kinds alone lose nothing when the others are reset. -/
theorem WellTyped.restrict_eq_self (h : c.WellTyped) {kinds : List Kind}
    (hk : ∀ k ∉ kinds, c.uses k = false) : c.restrict kinds = c := by
  apply foldl_reset_of_unused h
  intro k hmem
  exact hk k (by simpa using (List.mem_filter.1 hmem).2)

end Blueprint.Customizations
end Imagewright
