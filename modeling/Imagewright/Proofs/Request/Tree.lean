import Imagewright.Proofs.Catalog.Fedora
import Imagewright.Proofs.Disk.Paths
import Imagewright.Proofs.Request.Rejections

/-!
# Trees of directories and files

The paths of an accepted request are places of the tree: canonical, none of them the root, and each
one asked for once. No file stands above another file. A directory may be asked for below a file,
though, and cannot be made there.

## Main definitions

* `Request.IsPlace`, `Request.Sited`: each path is a place of its own below the root.
* `Request.Clear`: nothing is below a file.

## Main statements

* `Request.checkPath_eq_ok`, `Request.checkRepeats_eq_ok`, `Request.sort_filter_eq_nil`,
  `Request.firstNested_eq_none`: what each of the checks finds out.
* `Request.sited_of_validate`: the paths of accepted requests, and that no others are rejected for
  their paths.
* `Request.not_clear_qcow2`: an accepted directory below a file.
-/
namespace Imagewright.Request

open Blueprint (Customizations)
open Catalog (ImageType)
open Disk (IsAbove Leads MountpointPolicy)
open Outcome

/-- A path in canonical form that is not the root. -/
def IsPlace (path : String) : Prop := ∃ segments, segments ≠ [] ∧ Leads segments path

/-- Each path of a list is a place below the root, and none stands there twice. -/
structure Sited (paths : List String) : Prop where
  places : ∀ path ∈ paths, IsPlace path
  nodup : paths.Nodup

/-- No file is a proper ancestor of a path. -/
def Clear (files paths : List String) : Prop :=
  ∀ above ∈ files, ∀ path ∈ paths, ¬ IsAbove above path

/-! ## Checks -/

section

variable {path : String} {paths directories files : List String}

theorem isPlace_iff : IsPlace path ↔ (Disk.isClean path && path != "/") = true := by
  rw [Bool.and_eq_true, bne_iff_ne, Disk.isClean_iff]
  constructor
  · rintro ⟨segments, hne, h⟩
    exact ⟨⟨segments, h⟩, mt h.eq_root_iff.1 hne⟩
  · rintro ⟨⟨segments, h⟩, hroot⟩
    exact ⟨segments, mt h.eq_root_iff.2 hroot, h⟩

theorem checkPath_eq_ok {path' : String} :
    checkPath path = .ok path' ↔ IsPlace path ∧ path = path' := by
  have hbind : checkPath path =
      require (Disk.isClean path && path != "/") (.badPath path) "" >>= fun _ => .ok path := rfl
  rw [hbind, check_bind_eq_ok, require_eq_ok, isPlace_iff, Except.ok.injEq]

/-- Paths pass if each of them is a place below the root. -/
theorem mapM_checkPath_eq_ok {α : Type} {f : α → Value} {xs : List α}
    (h : xs.map f = paths.map .str) {paths' : List String} :
    (xs.mapM fun x => checkPath (f x)) = .ok paths' ↔
      (∀ path ∈ paths, IsPlace path) ∧ paths = paths' := by
  have hpass : List.Forall₂ (fun x path' => checkPath (f x) = .ok path') xs paths' ↔
      List.Forall₂ (fun path path' : String => checkPath path = .ok path') paths paths' := by
    rw [← List.forall₂_map_left_iff (R := fun v path' => checkPath v = .ok path'), h,
      List.forall₂_map_left_iff]
  rw [mapM_eq_ok, hpass]
  simp only [checkPath_eq_ok, List.forall₂_and_left, List.forall₂_eq_eq_eq]

theorem firstRepeatFrom_eq_none {seen : List String} :
    firstRepeatFrom seen paths = none ↔ paths.Nodup ∧ ∀ path ∈ paths, path ∉ seen := by
  induction paths generalizing seen with
  | nil => simp [firstRepeatFrom]
  | cons path paths ih =>
    by_cases hseen : path ∈ seen
    · simp [firstRepeatFrom, hseen]
    · simp only [firstRepeatFrom, List.contains_eq_mem, hseen, decide_false, Bool.false_eq_true,
        if_false, ih, List.nodup_cons, List.mem_cons, not_or]
      grind

theorem checkRepeats_eq_ok {kind : NodeKind} :
    checkRepeats kind paths = .ok () ↔ paths.Nodup := by
  have hnone : firstRepeatFrom [] paths = none ↔ paths.Nodup := by
    simp [firstRepeatFrom_eq_none]
  unfold checkRepeats
  cases hfirst : firstRepeatFrom [] paths with
  | none => simpa using hnone.1 hfirst
  | some path => simpa [hfirst] using hnone

/-- No path is asked for both as a directory and as a file. -/
theorem sort_filter_eq_nil :
    Text.sort (directories.filter files.contains) = [] ↔ directories.Disjoint files := by
  have hsorted : (Text.sort (directories.filter files.contains)).Perm
      (directories.filter files.contains) := Text.sortBy_perm id _
  rw [← List.length_eq_zero_iff, hsorted.length_eq, List.length_eq_zero_iff, List.filter_eq_nil_iff]
  simp [List.disjoint_left]

theorem firstNested_eq_none (h : ∀ path ∈ files, IsPlace path) :
    firstNested files = none ↔ Clear files files := by
  have hbelow : ∀ above ∈ files, ∀ path ∈ files,
      (above.toList ++ ['/']).isPrefixOf path.toList = true ↔ IsAbove above path := by
    intro above ha path hp
    obtain ⟨segments, hne, hleads⟩ := h above ha
    obtain ⟨segments', -, hleads'⟩ := h path hp
    exact (Disk.isAbove_iff_isPrefixOf hleads (mt hleads.eq_root_iff.1 hne) hleads').symm
  simp only [firstNested, List.findSome?_eq_none_iff, Option.map_eq_none_iff, List.find?_eq_none]
  constructor
  · exact fun hnone above ha path hp hab =>
      hnone path hp above ha ((hbelow above ha path hp).2 hab)
  · exact fun hclear path hp above ha hab =>
      hclear above ha path hp ((hbelow above ha path hp).1 hab)

theorem sited_append_iff : Sited (directories ++ files) ↔
    (∀ path ∈ directories, IsPlace path) ∧ (∀ path ∈ files, IsPlace path) ∧
      directories.Nodup ∧ files.Nodup ∧ directories.Disjoint files := by
  constructor
  · rintro ⟨hplaces, hnodup⟩
    rw [List.forall_mem_append] at hplaces
    exact ⟨hplaces.1, hplaces.2, List.nodup_append'.1 hnodup⟩
  · rintro ⟨hdirectories, hfiles, hnodup⟩
    exact ⟨List.forall_mem_append.2 ⟨hdirectories, hfiles⟩, List.nodup_append'.2 hnodup⟩

end

/-! ## Requests -/

section

variable {policy : MountpointPolicy} {t : ImageType} {b : Blueprint} {o : Options}
  {c : Customizations} {directories files : List String}

theorem exists_texts {values : List Value} (h : ∀ v ∈ values, v.isText = true) :
    ∃ texts : List String, values = texts.map .str := by
  induction values with
  | nil => exact ⟨[], rfl⟩
  | cons v values ih =>
    obtain ⟨hv, hvalues⟩ := List.forall_mem_cons.1 h
    obtain ⟨s, rfl⟩ := Value.isText_iff.1 hv
    obtain ⟨texts, rfl⟩ := ih hvalues
    exact ⟨s :: texts, rfl⟩

theorem sited_of_checkTree (hd : c.directories.map (·.path) = directories.map .str)
    (hf : c.files.map (·.path) = files.map .str) (h : checkTree c = .ok ()) :
    Sited (directories ++ files) ∧ Clear files files := by
  obtain ⟨_, _, hdirectories, hfiles, hdr, hfr, hboth, hnested, -⟩ := checkTree_eq_ok.1 h
  obtain ⟨hdl, rfl⟩ := (mapM_checkPath_eq_ok hd).1 hdirectories
  obtain ⟨hfl, rfl⟩ := (mapM_checkPath_eq_ok hf).1 hfiles
  have hsited := sited_append_iff.2 ⟨hdl, hfl, checkRepeats_eq_ok.1 hdr, checkRepeats_eq_ok.1 hfr,
    sort_filter_eq_nil.1 hboth⟩
  exact ⟨hsited, (firstNested_eq_none hfl).1 hnested⟩

theorem not_ofPaths_of_checkTree (hw : c.WellTyped)
    (hd : c.directories.map (·.path) = directories.map .str)
    (hf : c.files.map (·.path) = files.map .str) (hs : Sited (directories ++ files))
    (hc : Clear files files) : FailsWith (fun r => ¬ r.error.OfPaths) (checkTree c) := by
  obtain ⟨hdl, hfl, hdn, hfn, hdj⟩ := sited_append_iff.1 hs
  -- Past the checks of paths, only those of modes are left.
  have hpassed : checkTree c = (c.directories.forM fun d => checkMode d.mode) >>= fun _ =>
      c.files.forM fun f => checkMode f.mode := by
    simp only [checkTree, (mapM_checkPath_eq_ok hd).2 ⟨hdl, rfl⟩,
      (mapM_checkPath_eq_ok hf).2 ⟨hfl, rfl⟩, checkRepeats_eq_ok.2 hdn, checkRepeats_eq_ok.2 hfn,
      sort_filter_eq_nil.2 hdj, (firstNested_eq_none hfl).2 hc, ok_bind]
  rw [hpassed]
  refine failsWith_bind (failsWith_forM fun d hd => ?_) fun _ _ => failsWith_forM fun f hf => ?_
  · exact failsWith_checkMode (fun _ => nofun) (.inl (hw.mode_directory hd))
  · exact failsWith_checkMode (fun _ => nofun) (.inl (hw.mode_file hf))

/-- The paths of an accepted request are places of their own below the root, and no file is asked
for below another one. A request with such paths is not rejected for them. -/
theorem sited_of_validate (hb : b.WellTyped) :
    ∃ directories files : List String,
      b.settings.directories.map (·.path) = directories.map .str ∧
      b.settings.files.map (·.path) = files.map .str ∧
      (∀ ws, validate policy t b o = .ok ws → Sited (directories ++ files) ∧ Clear files files) ∧
      (Sited (directories ++ files) → Clear files files →
        ∀ r, validate policy t b o = .error r → ¬ r.OfPaths) := by
  have hdirectories : ∀ v ∈ b.settings.directories.map (·.path), v.isText = true :=
    List.forall_mem_map.2 fun _ => hb.settings.isText_directory
  have hfiles : ∀ v ∈ b.settings.files.map (·.path), v.isText = true :=
    List.forall_mem_map.2 fun _ => hb.settings.isText_file
  obtain ⟨directories, hd⟩ := exists_texts hdirectories
  obtain ⟨files, hf⟩ := exists_texts hfiles
  refine ⟨directories, files, hd, hf, fun ws h => ?_, fun hs hc => ?_⟩
  · exact sited_of_checkTree hd hf (validate_eq_ok.1 h).1.tree
  · exact fun r => of_failsWith_validateFor (P := (¬ ·.OfPaths))
      (failsWith_validateFor (fun _ _ hr => hr) (.inl hb.settings.usable)
        (not_ofPaths_of_checkTree hb.settings hd hf hs hc)
        fun m _ => ⟨fun _ => nofun, fun _ => nofun⟩)

end

/-- A blueprint that asks for a directory and for a file. -/
def directoryAndFile (directory file : String) : Blueprint where
  customizations := some {
    directories := [{ path := directory, ensureParents := true }]
    files := [{ path := file, data := "x" }] }

theorem wellTyped_directoryAndFile (directory file : String) :
    (directoryAndFile directory file).WellTyped := by
  refine .of_customizations ?_
  constructor <;> simp [Blueprint.Directory.wellTyped, Blueprint.File.wellTyped, Value.orNull,
    Value.isNull, Value.isText]

theorem sited_of_validate_qcow2 :
    ∃ t, Catalog.Fedora.registry.get "fedora-38" "x86_64" "qcow2" = .ok t ∧
      (directoryAndFile "/etc/app" "/etc/app/conf").WellTyped ∧
      validate .standard t.imageType (directoryAndFile "/etc/app" "/etc/app/conf") {} = .ok [] ∧
      Sited ["/etc/app", "/etc/app/conf"] := by
  obtain ⟨⟨_, _, ⟨d, h₁, h₂, h₃⟩, _⟩, ht, rfl, rfl, hd, -⟩ := Catalog.Fedora.get_qcow2
  obtain rfl : d = Catalog.Fedora.drafts[14] := hd
  have hv : validate .standard ⟨Catalog.Fedora.drafts[14], h₁, h₂, h₃⟩
      (directoryAndFile "/etc/app" "/etc/app/conf") {} = .ok [] := rfl
  have hb := wellTyped_directoryAndFile "/etc/app" "/etc/app/conf"
  refine ⟨_, ht, hb, hv, ?_⟩
  obtain ⟨directories, files, hdirectories, hfiles, hsited, -⟩ := sited_of_validate hb
  have hinj : Function.Injective Value.str := fun _ _ => Value.str.inj
  obtain rfl : ["/etc/app"] = directories := hinj.list_map hdirectories
  obtain rfl : ["/etc/app/conf"] = files := hinj.list_map hfiles
  exact (hsited _ hv).1

/-- A directory may be asked for below a file. -/
theorem not_clear_qcow2 :
    ∃ t, Catalog.Fedora.registry.get "fedora-38" "x86_64" "qcow2" = .ok t ∧
      (directoryAndFile "/etc/app/conf" "/etc/app").WellTyped ∧
      validate .standard t.imageType (directoryAndFile "/etc/app/conf" "/etc/app") {} = .ok [] ∧
      ¬ Clear ["/etc/app"] ["/etc/app/conf", "/etc/app"] := by
  obtain ⟨⟨_, _, ⟨d, h₁, h₂, h₃⟩, _⟩, ht, rfl, rfl, hd, -⟩ := Catalog.Fedora.get_qcow2
  obtain rfl : d = Catalog.Fedora.drafts[14] := hd
  refine ⟨_, ht, wellTyped_directoryAndFile _ _, rfl, fun hclear => ?_⟩
  have habove : IsAbove "/etc/app" "/etc/app/conf" :=
    ⟨[['e', 't', 'c'], ['a', 'p', 'p']], [['c', 'o', 'n', 'f']], by simp, ⟨rfl, by decide⟩,
      ⟨rfl, by decide⟩⟩
  exact hclear _ (by simp) _ (by simp) habove

end Imagewright.Request
