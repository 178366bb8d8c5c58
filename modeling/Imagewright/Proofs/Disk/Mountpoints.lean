import Imagewright.Proofs.Disk.Paths
import Imagewright.Proofs.Outcome
import Mathlib.Data.List.Infix

/-!
# What the check of mountpoints finds out

A mountpoint is looked at as the segments that lead to it: it is a path in canonical form, and a
policy decides about it by the first segments alone. The check names every path that is at fault,
once and in the order of the request.

## Main definitions

* `Disk.Canonical`: segments lead to a path.
* `Disk.Customizable`, `Disk.Permitted`: the places that the standard policy lets a request mount.

## Main statements

* `Disk.isUnder_iff_startsWith`: being under a path is having its segments in front.
* `Disk.allows_standard_iff`: what the standard policy allows, by segments.
* `Disk.distinct_eq_eraseDups`: how the paths at fault are listed.
* `Disk.checkMountpoints_standard`: which mountpoints pass, and what is told about the others.
-/
namespace Imagewright.Disk

open Blueprint (FilesystemRequest)
open Outcome (Succeeds)

/-! ## Places -/

/-- A path in canonical form: it is the root, or a slash and then segments with single slashes
between them, none of which is empty, a dot or two dots. -/
def Canonical (path : String) : Prop := ∃ segments, Leads segments path

instance : DecidablePred Canonical := fun _ => decidable_of_iff _ isClean_iff

/-- The directories of the root below which filesystems may be mounted. -/
def openTops : List String := ["var", "opt", "srv", "usr", "app", "data", "home", "tmp"]

/-- The places in them that are closed, with what is below. -/
def closedPlaces : List (List String) := [["var", "run"], ["var", "lock"]]

/-- The segments of a place that may have a filesystem of its own: the root, the place of the
kernels, or one below an open directory. -/
def Customizable (segments : List String) : Prop :=
  segments = [] ∨ segments = ["boot"] ∨
    (∃ top ∈ openTops, segments.head? = some top) ∧ segments.take 2 ∉ closedPlaces

/-- A path leads to a place that may have a filesystem of its own. -/
def Permitted (path : String) : Prop :=
  ∃ segments : List String, Leads (segments.map String.toList) path ∧ Customizable segments

/-! ## Paths under other paths -/

/-- Two texts with the same characters are equal, and so are lists of texts. -/
theorem toList_injective : Function.Injective String.toList := fun _ _ => String.toList_inj.1

/-- A path in canonical form has segments that are texts. -/
theorem Canonical.exists_segments {path : String} (h : Canonical path) :
    ∃ segments : List String, Leads (segments.map String.toList) path := by
  obtain ⟨segments, h⟩ := h
  refine ⟨segments.map String.ofList, ?_⟩
  simpa [Function.comp_def] using h

section

variable {segments places : List String} {path above : String}

/-- A path is under another one exactly if the segments of the other one are in front of its own.
-/
theorem isUnder_iff_startsWith (ha : Leads (places.map String.toList) above) (hne : places ≠ [])
    (hp : Leads (segments.map String.toList) path) :
    isUnder path above = true ↔ places <+: segments := by
  have hroot : above ≠ "/" := fun h => hne (by simpa using ha.eq_root_iff.1 h)
  rw [isUnder, Bool.or_eq_true, beq_iff_eq, ← isAbove_iff_isPrefixOf ha hroot hp,
    ← List.prefix_map_iff_of_injective toList_injective]
  constructor
  · rintro (heq | ⟨segments₀, rest, -, h, h'⟩)
    · rw [hp.unique (heq ▸ ha)]
    · rw [← h.unique ha, ← h'.unique hp]
      exact List.prefix_append _ _
  · rintro ⟨rest, hrest⟩
    by_cases hnil : rest = []
    · rw [hnil, List.append_nil] at hrest
      exact .inl (String.toList_inj.1 (hp.path_eq.trans (hrest ▸ ha.path_eq.symm)))
    · exact .inr ⟨_, rest, hnil, ha, hrest ▸ hp⟩

/-- The path that segments lead to. -/
def pathTo (segments : List String) : String := "/" ++ String.intercalate "/" segments

/-- The places that the standard policy knows, with the text of each. -/
theorem leads_pathTo : ∀ place ∈ openTops.map ([·]) ++ closedPlaces,
    place ≠ [] ∧ Leads (place.map String.toList) (pathTo place) := by
  have hchars : ∀ place ∈ openTops.map ([·]) ++ closedPlaces, place ≠ [] ∧
      (pathTo place).toList = '/' :: List.intercalate ['/'] (place.map String.toList) ∧
      ∀ s ∈ place.map String.toList, s ≠ [] ∧ s ≠ ['.'] ∧ s ≠ ['.', '.'] ∧ '/' ∉ s := by
    decide
  intro place hplace
  obtain ⟨hne, hpath, hproper⟩ := hchars place hplace
  exact ⟨hne, hpath, hproper⟩

/-! ## The standard policy -/

theorem prefixes_standard :
    MountpointPolicy.standard.prefixes = openTops.map fun top => pathTo [top] := by
  decide

theorem denied_standard : MountpointPolicy.standard.denied = closedPlaces.map pathTo := by
  decide

theorem any_isUnder_prefixes (hp : Leads (segments.map String.toList) path) :
    MountpointPolicy.standard.prefixes.any (isUnder path) = true ↔
      ∃ top ∈ openTops, segments.head? = some top := by
  have hunder : ∀ top ∈ openTops,
      (isUnder path (pathTo [top]) = true ↔ segments.head? = some top) := by
    intro top htop
    obtain ⟨hne, hleads⟩ := leads_pathTo [top] (by simp [htop])
    rw [isUnder_iff_startsWith hleads hne hp, List.singleton_prefix_iff_head?_eq_some]
  rw [prefixes_standard, List.any_map, List.any_eq_true]
  exact exists_congr fun top => and_congr_right (hunder top)

theorem any_isUnder_denied (hp : Leads (segments.map String.toList) path) :
    MountpointPolicy.standard.denied.any (isUnder path) = true ↔
      segments.take 2 ∈ closedPlaces := by
  have hlength : ∀ place ∈ closedPlaces, place.length = 2 := by decide
  have hunder : ∀ place ∈ closedPlaces,
      (isUnder path (pathTo place) = true ↔ place = segments.take 2) := by
    intro place hplace
    obtain ⟨hne, hleads⟩ := leads_pathTo place (List.mem_append_right _ hplace)
    rw [isUnder_iff_startsWith hleads hne hp, List.prefix_iff_eq_take, hlength place hplace]
  rw [denied_standard, List.any_map, List.any_eq_true]
  constructor
  · rintro ⟨place, hplace, h⟩
    exact (hunder place hplace).1 h ▸ hplace
  · intro h
    exact ⟨_, h, (hunder _ h).2 rfl⟩

theorem mem_exact_standard (hp : Leads (segments.map String.toList) path) :
    path ∈ MountpointPolicy.standard.exact ↔ segments = [] ∨ segments = ["boot"] := by
  have hboot : Leads (["boot"].map String.toList) "/boot" := ⟨by decide, by decide⟩
  have hexact : path ∈ MountpointPolicy.standard.exact ↔ path = "/" ∨ path = "/boot" := by
    simp [MountpointPolicy.standard]
  rw [hexact, hp.eq_root_iff, List.map_eq_nil_iff]
  refine or_congr_right ⟨?_, ?_⟩
  · rintro rfl
    exact List.map_injective_iff.2 toList_injective (hp.unique hboot)
  · rintro rfl
    exact String.toList_inj.1 (hp.path_eq.trans hboot.path_eq.symm)

/-- Of a path in canonical form, the standard policy looks at the first two segments. -/
theorem allows_standard_iff (hp : Leads (segments.map String.toList) path) :
    MountpointPolicy.standard.allows path = true ↔ Customizable segments := by
  have hopen := any_isUnder_prefixes hp
  have hclosed := any_isUnder_denied hp
  have hexact := mem_exact_standard hp
  -- neither the root nor the place of the kernels is in a closed place
  have hroot : segments = [] ∨ segments = ["boot"] → segments.take 2 ∉ closedPlaces := by
    rintro (rfl | rfl) <;> decide
  unfold MountpointPolicy.allows Customizable
  split
  · next hdenied => grind
  · next hdenied =>
    rw [Bool.or_eq_true, List.contains_iff_mem]
    grind

theorem permitted_iff : Permitted path ↔
    isClean path = true ∧ MountpointPolicy.standard.allows path = true := by
  constructor
  · rintro ⟨segments, hp, hc⟩
    exact ⟨hp.isClean, (allows_standard_iff hp).2 hc⟩
  · rintro ⟨hclean, hallowed⟩
    obtain ⟨segments, hp⟩ := Canonical.exists_segments (isClean_iff.1 hclean)
    exact ⟨segments, hp, (allows_standard_iff hp).1 hallowed⟩

instance : DecidablePred Permitted := fun _ => decidable_of_iff _ permitted_iff.symm

end

/-! ## Paths at fault -/

/-- Each text once is the list without its later duplicates. -/
theorem distinctFrom_eq (seen texts : List String) :
    distinctFrom seen texts = (texts.filter fun s => !seen.contains s).eraseDups := by
  fun_induction distinctFrom seen texts with
  | case1 => rfl
  | case2 seen s rest hseen ih => rw [List.filter_cons_of_neg (by simpa using hseen), ih]
  | case3 seen s rest hseen ih =>
    rw [List.filter_cons_of_pos (by simpa using hseen), List.eraseDups_cons, ih, List.filter_filter]
    simp only [List.contains_cons, Bool.not_or]

theorem distinct_eq_eraseDups (texts : List String) : distinct texts = texts.eraseDups := by
  rw [distinct, distinctFrom_eq, List.filter_eq_self.2 (by simp)]

/-- The paths of a list that are not in canonical form, each once, in the order of the list. -/
def dirtyPaths (paths : List String) : List String := (paths.filter (¬ Canonical ·)).eraseDups

/-- The paths of a list that may not have a filesystem of their own, each once, in the order of the
list. -/
def forbiddenPaths (paths : List String) : List String := (paths.filter (¬ Permitted ·)).eraseDups

theorem distinct_filter_isClean (paths : List String) :
    distinct (paths.filter (!isClean ·)) = dirtyPaths paths := by
  rw [distinct_eq_eraseDups, dirtyPaths]
  congr 1
  exact List.filter_congr fun path _ => by simp [Canonical, ← isClean_iff]

theorem distinct_filter_allows {paths : List String} (h : ∀ path ∈ paths, Canonical path) :
    distinct (paths.filter (!MountpointPolicy.standard.allows ·)) = forbiddenPaths paths := by
  rw [distinct_eq_eraseDups, forbiddenPaths]
  congr 1
  exact List.filter_congr fun path hpath => by simp [permitted_iff, isClean_iff.2 (h path hpath)]

theorem eraseDups_filter_eq_nil {P : String → Prop} [DecidablePred P] {paths : List String} :
    (paths.filter (¬ P ·)).eraseDups = [] ↔ ∀ path ∈ paths, P path := by
  simp [List.eq_nil_iff_forall_not_mem]

/-! ## The check -/

/-- What the check finds out about a list of paths: those that are not in canonical form come first,
then those that may not have a filesystem of their own. -/
theorem checkPaths_standard (paths : List String) :
    checkPaths .standard paths =
      if ∀ path ∈ paths, Canonical path then
        if ∀ path ∈ paths, Permitted path then .ok ()
        else .error (.unsupported (forbiddenPaths paths))
      else .error (.dirty (dirtyPaths paths)) := by
  have hdirty : dirtyPaths paths = [] ↔ ∀ path ∈ paths, Canonical path := eraseDups_filter_eq_nil
  have hforbidden : forbiddenPaths paths = [] ↔ ∀ path ∈ paths, Permitted path :=
    eraseDups_filter_eq_nil
  dsimp only [checkPaths]
  rw [distinct_filter_isClean]
  by_cases hclean : ∀ path ∈ paths, Canonical path
  · rw [distinct_filter_allows hclean, if_pos hclean, hdirty.2 hclean]
    by_cases hpermitted : ∀ path ∈ paths, Permitted path
    · rw [if_pos hpermitted, hforbidden.2 hpermitted]
      rfl
    · have hne : forbiddenPaths paths ≠ [] := mt hforbidden.1 hpermitted
      simp [hne, hpermitted]
  · have hne : dirtyPaths paths ≠ [] := mt hdirty.1 hclean
    simp [hne, hclean]

def SizedPath.request (s : SizedPath) : FilesystemRequest := ⟨.str s.path, s.minSize⟩

theorem mapM_request (sized : List SizedPath) :
    (sized.map SizedPath.request).mapM sizedPath = .ok sized := by
  rw [Outcome.mapM_eq_ok, List.forall₂_map_left_iff, List.forall₂_same]
  exact fun _ _ => rfl

/-- Mountpoints pass the check exactly if each is a path in canonical form that leads to a place
where the standard policy permits a filesystem. If some are not in canonical form, those are told;
else, if some are not permitted, those are. Each is told once, in the order of the request. -/
theorem checkMountpoints_standard (sized : List SizedPath) :
    let paths := sized.map (·.path)
    let outcome := checkMountpoints .standard (sized.map SizedPath.request)
    (Succeeds outcome ↔ ∀ path ∈ paths, Canonical path ∧ Permitted path) ∧
    (∀ told, outcome = .error (.dirty told) ↔
      (∃ path ∈ paths, ¬ Canonical path) ∧ told = dirtyPaths paths) ∧
    ∀ told, outcome = .error (.unsupported told) ↔
      (∀ path ∈ paths, Canonical path) ∧ (∃ path ∈ paths, ¬ Permitted path) ∧
        told = forbiddenPaths paths := by
  intro paths outcome
  have houtcome : outcome = checkPaths .standard paths >>= fun _ => .ok sized := by
    simp only [outcome, checkMountpoints, mapM_request]
    rfl
  rw [houtcome, checkPaths_standard]
  by_cases hclean : ∀ path ∈ paths, Canonical path
  · by_cases hpermitted : ∀ path ∈ paths, Permitted path
    · rw [if_pos hclean, if_pos hpermitted, Outcome.ok_bind]
      refine ⟨iff_of_true ⟨sized, rfl⟩ fun path hp => ⟨hclean path hp, hpermitted path hp⟩, ?_, ?_⟩
      · grind
      · grind
    · rw [if_pos hclean, if_neg hpermitted, Outcome.error_bind]
      refine ⟨iff_of_false (by simp [Succeeds]) fun h => hpermitted fun path hp => (h path hp).2,
        ?_, ?_⟩
      · grind
      · grind
  · rw [if_neg hclean, Outcome.error_bind]
    refine ⟨iff_of_false (by simp [Succeeds]) fun h => hclean fun path hp => (h path hp).1, ?_, ?_⟩
    · grind
    · grind

/-- A name that merely starts like an open directory is none, and paths that are not clean are told
before it. -/
example : checkPaths .standard ["/varnish", "/var/log", "/var/run/x", "/varnish"] =
      .error (.unsupported ["/varnish", "/var/run/x"]) ∧
    checkPaths .standard ["/varnish", "/var/", "/var//log", "/var/"] =
      .error (.dirty ["/var/", "/var//log"]) := by decide

end Imagewright.Disk
