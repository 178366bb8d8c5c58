import Imagewright.Proofs.Disk.Mountpoints

/-!
# What a policy of mountpoints allows

A policy speaks of places: of some as they are, of others with everything below. It is read segment
by segment, and what it denies it denies whatever else it says. The root is the exception: it stands
for itself only, so neither a list of prefixes nor a list of denials reaches below it.

## Main definitions

* `Disk.Spans`: a path is a place or lies below it.
* `Disk.Reaches`: the same, but nothing lies below the root.
* `Disk.MountpointPolicy.Permits`: what the lists of a policy say, by what a place stands for.

## Main statements

* `Disk.isUnder_iff_reaches`: the test of a policy, by segments.
* `Disk.allows_iff_permits`: what any policy allows.
* `Disk.not_allows_iff_permits_root`: below the root it is not what the lists say.
-/
namespace Imagewright.Disk

/-- A path is a place or lies below it. -/
def Spans (place path : String) : Prop := path = place ∨ IsAbove place path

/-- A path is a place or lies below it, where the root has nothing below. -/
def Reaches (place path : String) : Prop := path = place ∨ place ≠ "/" ∧ IsAbove place path

/-- What the lists of a policy say about a path: no denied place stands for it, and it is one of the
exact places or one of the others stands for it. -/
def MountpointPolicy.Permits (policy : MountpointPolicy) (stands : String → String → Prop)
    (path : String) : Prop :=
  (∀ place ∈ policy.denied, ¬ stands place path) ∧
    (path ∈ policy.exact ∨ ∃ place ∈ policy.prefixes, stands place path)

section

variable {policy : MountpointPolicy} {place path : String}

/-! ## The root -/

/-- Every other path lies below the root. -/
theorem isAbove_root (hp : Canonical path) (hne : path ≠ "/") : IsAbove "/" path := by
  obtain ⟨segments, hp⟩ := hp
  exact ⟨[], segments, mt hp.eq_root_iff.2 hne, ⟨rfl, by simp⟩, hp⟩

/-- Below the root would be what starts with two slashes, which no canonical path does. -/
theorem isUnder_root_iff (hp : Canonical path) : isUnder path "/" = true ↔ path = "/" := by
  obtain ⟨segments, hp⟩ := hp
  have hslash : hasDoubleSlash path.toList = false := by
    rw [hp.path_eq]
    exact hasDoubleSlash_intercalate fun s hs => ⟨(hp.proper s hs).1, (hp.proper s hs).2.2.2⟩
  rw [isUnder, Bool.or_eq_true, beq_iff_eq, List.isPrefixOf_iff_prefix]
  refine or_iff_left ?_
  rintro ⟨rest, hrest⟩
  rw [← hrest] at hslash
  cases hslash

theorem reaches_iff_spans (h : path = "/" ∨ place ≠ "/") :
    Reaches place path ↔ Spans place path := by
  refine or_congr_right (and_iff_right_of_imp fun habove => h.elim ?_ id)
  rintro rfl rfl
  exact absurd habove.length_lt (lt_irrefl _)

/-! ## Policies -/

theorem isUnder_iff_reaches (hplace : Canonical place) (hp : Canonical path) :
    isUnder path place = true ↔ Reaches place path := by
  by_cases hroot : place = "/"
  · subst hroot
    rw [isUnder_root_iff hp]
    simp [Reaches]
  · obtain ⟨places, hplace⟩ := hplace
    obtain ⟨segments, hp⟩ := hp
    rw [isUnder, Bool.or_eq_true, beq_iff_eq, ← isAbove_iff_isPrefixOf hplace hroot hp]
    simp [Reaches, hroot]

theorem any_isUnder_iff {places : List String} (hplaces : ∀ place ∈ places, Canonical place)
    (hp : Canonical path) :
    places.any (isUnder path) = true ↔ ∃ place ∈ places, Reaches place path := by
  rw [List.any_eq_true]
  exact exists_congr fun place => and_congr_right fun hplace =>
    isUnder_iff_reaches (hplaces place hplace) hp

theorem permits_congr {stands stands' : String → String → Prop}
    (h : ∀ place ∈ policy.prefixes ++ policy.denied, (stands place path ↔ stands' place path)) :
    policy.Permits stands path ↔ policy.Permits stands' path := by
  refine and_congr ?_ (or_congr_right ?_)
  · exact forall₂_congr fun place hplace => not_congr (h place (List.mem_append_right _ hplace))
  · exact exists_congr fun place => and_congr_right fun hplace =>
      h place (List.mem_append_left _ hplace)

/-- A policy allows exactly the paths that no denied place reaches and that are exact places or
reached by another one. Where the root is on none of these two lists, or the path is the root
itself, that is what the lists say with everything below a place. -/
theorem allows_iff_permits (hplaces : ∀ place ∈ policy.prefixes ++ policy.denied, Canonical place)
    (hp : Canonical path) :
    (policy.allows path = true ↔ policy.Permits Reaches path) ∧
    (path = "/" ∨ "/" ∉ policy.prefixes ++ policy.denied →
      (policy.allows path = true ↔ policy.Permits Spans path)) := by
  obtain ⟨hprefixes, hdenied⟩ := List.forall_mem_append.1 hplaces
  have hreached : policy.allows path = true ↔ policy.Permits Reaches path := by
    unfold MountpointPolicy.allows MountpointPolicy.Permits
    split
    · next h =>
      obtain ⟨place, hplace, hreaches⟩ := (any_isUnder_iff hdenied hp).1 h
      exact iff_of_false Bool.false_ne_true fun hpermits => hpermits.1 place hplace hreaches
    · next h =>
      have hfree : ∀ place ∈ policy.denied, ¬ Reaches place path := fun place hplace hreaches =>
        h ((any_isUnder_iff hdenied hp).2 ⟨place, hplace, hreaches⟩)
      rw [Bool.or_eq_true, List.contains_iff_mem, any_isUnder_iff hprefixes hp]
      exact (and_iff_right hfree).symm
  refine ⟨hreached, fun hroot => hreached.trans (permits_congr fun place hplace => ?_)⟩
  exact reaches_iff_spans (hroot.imp_right fun hnot heq => hnot (heq ▸ hplace))

end

/-- The directory of changing data is open, but for one place. -/
def varPolicy : MountpointPolicy := { exact := ["/"], prefixes := ["/var"], denied := ["/var/run"] }

theorem allows_iff_permits_log :
    (∀ place ∈ varPolicy.prefixes ++ varPolicy.denied, Canonical place) ∧ Canonical "/var/log" ∧
      "/" ∉ varPolicy.prefixes ++ varPolicy.denied ∧ varPolicy.Permits Spans "/var/log" := by
  have hplaces : ∀ place ∈ varPolicy.prefixes ++ varPolicy.denied, Canonical place := by decide
  have hp : Canonical "/var/log" := by decide
  have hroot : "/" ∉ varPolicy.prefixes ++ varPolicy.denied := by decide
  exact ⟨hplaces, hp, hroot, ((allows_iff_permits hplaces hp).2 (.inr hroot)).1 (by decide)⟩

/-- The whole tree is open. -/
def openPolicy : MountpointPolicy := { exact := [], prefixes := ["/"] }

/-- The whole tree is closed. -/
def closedPolicy : MountpointPolicy := { exact := ["/srv"], prefixes := [], denied := ["/"] }

/-- A path below the root is not allowed though the whole tree is open, and it is allowed though the
whole tree is closed. -/
theorem not_allows_iff_permits_root :
    (∀ policy ∈ [openPolicy, closedPolicy], ∀ place ∈ policy.exact ++ policy.prefixes ++
      policy.denied, Canonical place) ∧ Canonical "/srv" ∧
    (openPolicy.allows "/srv" = false ∧ openPolicy.Permits Spans "/srv") ∧
    (closedPolicy.allows "/srv" = true ∧ ¬ closedPolicy.Permits Spans "/srv") := by
  have hsrv : Canonical "/srv" := by decide
  have habove : IsAbove "/" "/srv" := isAbove_root hsrv (by decide)
  refine ⟨by decide, hsrv, ⟨by decide, ?_⟩, by decide, ?_⟩
  · exact ⟨by simp [openPolicy], .inr ⟨"/", List.mem_singleton_self _, .inr habove⟩⟩
  · exact fun h => h.1 "/" (List.mem_singleton_self _) (.inr habove)

end Imagewright.Disk
