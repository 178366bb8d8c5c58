import Imagewright.Blueprint.Decode
import Imagewright.Proofs.Outcome
import Mathlib.Data.List.TakeWhile

/-!
# What a decoded blueprint holds

A blueprint that was decoded holds the names, sizes and data that its document says, entry by entry,
and all of them passed their checks.

## Main definitions

* `Blueprint.HasName`, `HasMinSize`, `HasData`: what an entry of a document says, checked.
* `Blueprint.Sound`: a blueprint holds what its document says.

## Main statements

* `Blueprint.decode_obj`: the steps of decoding.
* `Blueprint.sound_decode`: what is decoded is sound.
-/
namespace Imagewright

theorem Text.strip_eq_empty_iff {s : String} : Text.strip s = "" ↔ Text.isAllBlank s = true := by
  have hall : ∀ cs : List Char, cs.dropWhile Text.isBlank = [] ↔ cs.all Text.isBlank = true :=
    fun cs => List.dropWhile_eq_nil_iff.trans List.all_eq_true.symm
  have htrim : ∀ cs : List Char, Text.trim cs = [] ↔ cs.dropWhile Text.isBlank = [] := by
    intro cs
    rw [Text.trim, Text.trimEnd, List.reverse_eq_nil_iff, hall, List.all_reverse]
    cases h : cs.dropWhile Text.isBlank with
    | nil => simp
    | cons c rest =>
      have hc : Text.isBlank c = false := by
        simpa [h] using List.head_dropWhile_not Text.isBlank (l := cs) (by simp [h])
      simp [hc]
  rw [Text.isAllBlank, ← hall, ← htrim, Text.strip, ← String.toList_inj]
  simp

namespace Blueprint

/-! ## Steps of decoding -/

/-- The customizations of an object, unless they are not there or null. -/
def customizationsAt (fields : List (String × Value)) : Except Error (Option Customizations) :=
  match Assoc.get? fields "customizations" with
  | none => pure none
  | some v => if v.isNull then pure none else (decodeCustomizations v).map some

/-- Only objects are blueprints. Packages come before customizations. -/
theorem decode_obj (fields : List (String × Value)) : decode (.obj fields) =
    (decodePackages (.obj fields)).mapError .packages >>= fun (packages, modules, groups) =>
      customizationsAt fields >>= fun customizations =>
        .ok {
          name := textAt fields "name"
          description := textAt fields "description"
          version := textAt fields "version"
          packages, modules, groups, customizations } := by
  unfold decode customizationsAt
  refine bind_congr fun ⟨packages, modules, groups⟩ => ?_
  cases Assoc.get? fields "customizations" with
  | none => rfl
  | some v => cases v <;> rfl

/-! ## What a blueprint holds -/

section Sound

variable {data v : Value} {key : String}

/-- The items of a list are those of a field of a document, one after another. -/
def Holds {α : Type} (data : Value) (key : String) (R : Value → α → Prop) (xs : List α) : Prop :=
  ∃ entries, data.itemsAt key = .ok entries ∧ List.Forall₂ R entries xs

/-- The name of an entry is a text that does not consist of blanks only. -/
def HasName (entry : Value) (name : Text.NonBlank) : Prop :=
  entry.field "name" = .ok (.str name.text) ∧ Text.strip name.text ≠ ""

/-- The least size of an entry is what its value denotes. A number denotes itself. -/
def HasMinSize (entry : Value) (bytes : Nat) : Prop :=
  ∃ size, entry.getD "minsize" (.int 0) = .ok size ∧ parseSize size = .ok bytes ∧
    ∀ n, size = .int n → n = bytes

/-- The data of an entry is null or not too long. -/
def HasData (entry content : Value) : Prop :=
  entry.getD "data" .null = .ok content ∧
    (content.isNull = true ∨ ∃ n, content.size? = some n ∧ n ≤ 524288)

/-- Customizations hold what their document says, in its order. -/
structure Customizations.Sound (data : Value) (c : Customizations) : Prop where
  users : Holds data "user" (fun entry u => HasName entry u.name) c.users
  groups : Holds data "group" (fun entry g => HasName entry g.name) c.groups
  filesystem : Holds data "filesystem" (fun entry r => HasMinSize entry r.minSize) c.filesystem
  files : Holds data "files" (fun entry f => HasData entry f.data) c.files

/-- A blueprint holds what its document says, in its order. -/
structure Sound (data : Value) (b : Blueprint) : Prop where
  packages : Holds data "packages" (fun entry p => HasName entry p.name) b.packages
  modules : Holds data "modules" (fun entry p => HasName entry p.name) b.modules
  customizations : ∀ c, b.customizations = some c →
    ∃ v, data.get? "customizations" = .ok (some v) ∧ c.Sound v

theorem liftM_mismatch_eq_ok {α : Type} {x : Except Value.Mismatch α} {a : α} :
    (liftM x : Except Defect α) = .ok a ↔ x = .ok a := Outcome.mapError_eq_ok

theorem holds_of_decodeEntries {α : Type} {decode : Value → Except Defect α} {xs : List α}
    {R : Value → α → Prop} (h : decodeEntries data key decode = .ok xs)
    (hR : ∀ v x, decode v = .ok x → R v x) : Holds data key R xs := by
  obtain ⟨entries, hentries, h⟩ := Outcome.bind_eq_ok.1 h
  exact ⟨entries, liftM_mismatch_eq_ok.1 hentries, (Outcome.mapM_eq_ok.1 h).imp hR⟩

theorem hasName_of_decodeName {what : Named} {value : Value} {name : Text.NonBlank}
    (hvalue : v.field "name" = .ok value) (h : decodeName what value = .ok name) :
    HasName v name := by
  cases value with
  | str s =>
    simp only [decodeName, Text.NonBlank.ofString?] at h
    split at h
    · next hname =>
      obtain rfl := Except.ok.inj h
      split at hname
      · next hblank =>
        obtain rfl := Option.some.inj hname
        exact ⟨hvalue, by simp [Text.strip_eq_empty_iff, hblank]⟩
      · cases hname
    · cases h
  | _ => cases h

theorem hasName_decodePackage {p : Package} (h : decodePackage v = .ok p) : HasName v p.name := by
  unfold decodePackage at h
  simp only [Outcome.bind_eq_ok, liftM_mismatch_eq_ok] at h
  obtain ⟨value, hvalue, version, -, h⟩ := h
  unfold Package.ofValues at h
  cases hname : decodeName .package value with
  | error d => simp [hname, Except.map] at h
  | ok name =>
    simp only [hname, Except.map, Except.ok.injEq] at h
    exact h ▸ hasName_of_decodeName hvalue hname

theorem hasName_decodeUser {u : User} (h : decodeUser v = .ok u) : HasName v u.name := by
  unfold decodeUser at h
  simp only [Outcome.bind_eq_ok, liftM_mismatch_eq_ok, Outcome.pure_eq_ok] at h
  obtain ⟨value, hvalue, _, -, _, -, _, -, _, -, _, -, _, -, _, -, _, -, name, hname, rfl⟩ := h
  exact hasName_of_decodeName hvalue hname

theorem hasName_decodeGroup {g : Group} (h : decodeGroup v = .ok g) : HasName v g.name := by
  unfold decodeGroup at h
  simp only [Outcome.bind_eq_ok, liftM_mismatch_eq_ok, Outcome.pure_eq_ok] at h
  obtain ⟨value, hvalue, _, -, name, hname, rfl⟩ := h
  exact hasName_of_decodeName hvalue hname

theorem hasMinSize_decodeFilesystem {r : FilesystemRequest} (h : decodeFilesystem v = .ok r) :
    HasMinSize v r.minSize := by
  unfold decodeFilesystem at h
  simp only [Outcome.bind_eq_ok, liftM_mismatch_eq_ok, Outcome.pure_eq_ok] at h
  obtain ⟨_, -, size, hsize, bytes, hbytes, rfl⟩ := h
  have hparse : parseSize size = .ok bytes := Outcome.mapError_eq_ok.1 hbytes
  refine ⟨size, hsize, hparse, ?_⟩
  rintro n rfl
  simp only [parseSize] at hparse
  split at hparse
  · cases hparse
  · next hneg =>
    obtain rfl := Except.ok.inj hparse
    exact (Int.toNat_of_nonneg (Int.not_lt.1 hneg)).symm

theorem hasData_decodeFile {f : File} (h : decodeFile v = .ok f) : HasData v f.data := by
  unfold decodeFile at h
  simp only [Outcome.bind_eq_ok, liftM_mismatch_eq_ok] at h
  obtain ⟨_, -, _, -, _, -, _, -, content, hcontent, h⟩ := h
  split at h
  · next hnull =>
    obtain rfl := (Outcome.pure_eq_ok _ _).1 h
    exact ⟨hcontent, .inl hnull⟩
  · split at h
    · cases h
    · next size hsize =>
      split at h
      · cases h
      · next hle =>
        obtain rfl := (Outcome.pure_eq_ok _ _).1 h
        exact ⟨hcontent, .inr ⟨size, hsize, Nat.not_lt.1 hle⟩⟩

theorem sound_decodeSettings {c : Customizations} (h : decodeSettings data = .ok c) :
    c.Sound data := by
  unfold decodeSettings at h
  simp only [Outcome.bind_eq_ok, Outcome.pure_eq_ok] at h
  obtain ⟨_, -, _, -, _, -, _, -, _, -, _, -, _, -, _, -, _, -, _, -, _, -, users, husers, groups,
    hgroups, filesystem, hfilesystem, _, -, _, -, files, hfiles, _, -, rfl⟩ := h
  exact {
    users := holds_of_decodeEntries husers fun _ _ => hasName_decodeUser
    groups := holds_of_decodeEntries hgroups fun _ _ => hasName_decodeGroup
    filesystem := holds_of_decodeEntries hfilesystem fun _ _ => hasMinSize_decodeFilesystem
    files := holds_of_decodeEntries hfiles fun _ _ => hasData_decodeFile }

theorem sound_customizationsAt {fields : List (String × Value)} {c : Customizations}
    (h : customizationsAt fields = .ok (some c)) :
    ∃ v, Assoc.get? fields "customizations" = some v ∧ c.Sound v := by
  unfold customizationsAt at h
  split at h
  · cases h
  · next v hget =>
    split at h
    · cases h
    · obtain ⟨c', hc, heq⟩ := Outcome.map_eq_ok.1 h
      obtain rfl := Option.some.inj heq
      exact ⟨v, hget, sound_decodeSettings (Outcome.mapError_eq_ok.1 hc)⟩

theorem sound_decode {b : Blueprint} (h : decode data = .ok b) : b.Sound data := by
  cases data with
  | obj fields =>
    simp only [decode_obj, Outcome.bind_eq_ok, Outcome.mapError_eq_ok, Except.ok.injEq] at h
    obtain ⟨⟨packages, modules, groups⟩, hdecode, customizations, hcustomizations, rfl⟩ := h
    unfold decodePackages at hdecode
    simp only [Outcome.bind_eq_ok, Outcome.pure_eq_ok, Prod.mk.injEq] at hdecode
    obtain ⟨_, hpackages, _, hmodules, _, -, rfl, rfl, -⟩ := hdecode
    refine ⟨holds_of_decodeEntries hpackages fun _ _ => hasName_decodePackage,
      holds_of_decodeEntries hmodules fun _ _ => hasName_decodePackage, ?_⟩
    rintro c rfl
    obtain ⟨v, hv, hsound⟩ := sound_customizationsAt hcustomizations
    exact ⟨v, congrArg Except.ok hv, hsound⟩
  | _ => cases h

end Sound

end Blueprint
end Imagewright
