import Imagewright.Proofs.Raised
import Imagewright.Proofs.Request.Mode
import Mathlib.Tactic.MkIffOfInductiveProp

/-!
# What an accepted request promises

## Main definitions

* `Request.Accepted`: what the checks of a request make sure of.

## Main statements

* `Request.untagged_validateFor`: the tag of a request does not decide about it.
* `Request.validate_eq_ok`: a request is accepted if and only if it passes all checks.
* `Request.checkTree_eq_ok`, `Request.checkServices_eq_ok`: directories and files, and units, pass
  their checks.
* `Request.Accepted.truthy_ostreeUrl`, `Request.truthy_of_checkSimplifiedInstaller`,
  `Request.isMode_of_checkMode`: what the assembly relies on.
-/
namespace Imagewright.Request

open Blueprint (Customizations)
open Catalog (ImageType)
open Disk (MountpointPolicy)

/-- A request passes all checks. -/
@[mk_iff]
structure Accepted (policy : MountpointPolicy) (t : ImageType) (b : Blueprint) (o : Options) :
    Prop where
  ostree : ∀ s, o.ostree = some s → checkOstree s = .ok ()
  bootIsoUrl : (t.family.bootIso && t.family.rpmOstree) = true → o.ostreeUrl.truthy = true
  allowed : checkAllowed t b.settings = .ok ()
  installer : t.family = .simplifiedInstaller →
    checkSimplifiedInstaller t.name b.settings = .ok ()
  commit : t.family.producesCommit = true → checkCommit b.settings = .ok ()
  mountpoints : Outcome.Succeeds (Disk.checkMountpoints policy b.settings.filesystem)
  diskUrl : t.family = .ostreeDisk → o.ostreeUrl.truthy = true
  tree : checkTree b.settings = .ok ()
  services : checkServices b.settings = .ok ()

/-! ## Tags -/

section

open Raised

theorem untagged_require (ok : Bool) (r : Rejection) (id id' : String) :
    untagged (require ok r id) = untagged (require ok r id') := by
  cases ok <;> rfl

theorem untagged_checkOstree (o : OstreeOptions) (id id' : String) :
    untagged (checkOstree o id) = untagged (checkOstree o id') :=
  untagged_bind_congr (untagged_require ..) fun _ =>
    untagged_bind_congr (untagged_require ..) fun _ => untagged_require ..

theorem untagged_checkAllowed (t : ImageType) (c : Customizations) (id id' : String) :
    untagged (checkAllowed t c id) = untagged (checkAllowed t c id') := by
  unfold checkAllowed
  split
  · rfl
  · exact untagged_require ..

theorem untagged_checkSimplifiedInstaller (imageType : String) (c : Customizations)
    (id id' : String) : untagged (checkSimplifiedInstaller imageType c id) =
      untagged (checkSimplifiedInstaller imageType c id') := by
  refine untagged_bind_congr (untagged_require ..) fun _ => ?_
  split
  · exact untagged_bind_congr (untagged_require ..) fun _ => untagged_require ..
  · rfl

theorem untagged_checkCommit (c : Customizations) (id id' : String) :
    untagged (checkCommit c id) = untagged (checkCommit c id') :=
  untagged_bind_congr (untagged_require ..) fun _ => untagged_require ..

theorem untagged_checkPath (path : Value) (id id' : String) :
    untagged (checkPath path id) = untagged (checkPath path id') :=
  untagged_bind_congr rfl fun _ => untagged_bind_congr (untagged_require ..) fun _ => rfl

theorem untagged_checkRepeats (kind : NodeKind) (paths : List String) (id id' : String) :
    untagged (checkRepeats kind paths id) = untagged (checkRepeats kind paths id') := by
  unfold checkRepeats
  split <;> rfl

theorem untagged_checkMode (mode : Value) (id id' : String) :
    untagged (checkMode mode id) = untagged (checkMode mode id') := by
  unfold checkMode
  split
  · rfl
  · exact untagged_bind_congr rfl fun _ => untagged_require ..

theorem untagged_checkTree (c : Customizations) (id id' : String) :
    untagged (checkTree c id) = untagged (checkTree c id') := by
  refine untagged_bind_congr (untagged_mapM_congr (fun _ => untagged_checkPath ..) _) fun ds => ?_
  refine untagged_bind_congr (untagged_mapM_congr (fun _ => untagged_checkPath ..) _) fun fs => ?_
  refine untagged_bind_congr (untagged_checkRepeats ..) fun _ => ?_
  refine untagged_bind_congr (untagged_checkRepeats ..) fun _ => ?_
  cases Text.sort (ds.filter fs.contains) with
  | cons path rest => rfl
  | nil =>
    cases firstNested fs with
    | some nested => rfl
    | none =>
      exact untagged_bind_congr (untagged_forM_congr (fun _ => untagged_checkMode ..) _) fun _ =>
        untagged_forM_congr (fun _ => untagged_checkMode ..) _

theorem untagged_checkServices (c : Customizations) (id id' : String) :
    untagged (checkServices c id) = untagged (checkServices c id') := by
  unfold checkServices
  split
  · rfl
  · exact untagged_bind_congr rfl fun _ => untagged_bind_congr rfl fun _ => untagged_require ..

/-- The tag of a request does not decide about it. -/
theorem untagged_validateFor (policy : MountpointPolicy) (t : ImageType) (b : Blueprint)
    (o : Options) (id : String) :
    untagged (validateFor policy t b o id) = validate policy t b o := by
  unfold validate validateFor
  cases o.ostree
  case' some s => refine untagged_bind_congr (untagged_checkOstree ..) fun _ => ?_
  -- With OSTree options or without them, the other checks are the same.
  all_goals
    refine untagged_ite_check_congr (untagged_require ..) ?_
    refine untagged_bind_congr (untagged_checkAllowed ..) fun _ => ?_
    refine untagged_ite_check_congr (untagged_checkSimplifiedInstaller ..) ?_
    refine untagged_ite_check_congr (untagged_checkCommit ..) ?_
    cases Disk.checkMountpoints policy b.settings.filesystem with
    | error m => cases m <;> rfl
    | ok sized =>
      refine untagged_ite_check_congr (untagged_require ..) ?_
      exact untagged_bind_congr (untagged_checkTree ..) fun _ =>
        untagged_bind_congr (untagged_checkServices ..) fun _ => rfl

end

/-! ## Requests that pass -/

@[simp] theorem require_eq_ok {ok : Bool} {r : Rejection} {id : String} :
    require ok r id = .ok () ↔ ok = true := by
  cases ok <;> simp [require]

/-- A request is accepted if and only if it passes all checks. -/
theorem validate_eq_ok {policy : MountpointPolicy} {t : ImageType} {b : Blueprint} {o : Options}
    {ws : List Warning} :
    validate policy t b o = .ok ws ↔ Accepted policy t b o ∧ warnings t b o = ws := by
  rw [accepted_iff, validate, Raised.untagged_eq_ok]
  unfold validateFor
  cases hm : Disk.checkMountpoints policy b.settings.filesystem with
  | error e =>
    have hfails : ¬ Outcome.Succeeds (Except.error e : Except _ (List Disk.SizedPath)) := by
      simp [Outcome.Succeeds]
    cases ho : o.ostree <;> cases e <;>
      simp [Outcome.ite_check_eq_ok, Outcome.check_bind_eq_ok, hm, hfails]
  | ok sized =>
    have hpasses : Outcome.Succeeds (Except.ok sized : Except Disk.MountpointError _) :=
      Outcome.succeeds_ok sized
    cases ho : o.ostree <;>
      simp only [Outcome.ite_check_eq_ok, Outcome.check_bind_eq_ok, Outcome.pure_eq_ok,
        require_eq_ok, beq_iff_eq, hm, hpasses] <;>
      simp [and_assoc]

/-- Directories and files pass their checks. -/
theorem checkTree_eq_ok {c : Customizations} :
    checkTree c = .ok () ↔
      ∃ directories files, (c.directories.mapM fun d => checkPath d.path) = .ok directories ∧
        (c.files.mapM fun f => checkPath f.path) = .ok files ∧
        checkRepeats .directory directories = .ok () ∧ checkRepeats .file files = .ok () ∧
        Text.sort (directories.filter files.contains) = [] ∧ firstNested files = none ∧
        (∀ d ∈ c.directories, checkMode d.mode = .ok ()) ∧
        ∀ f ∈ c.files, checkMode f.mode = .ok () := by
  unfold checkTree
  simp only [Outcome.bind_eq_ok (α := List String), Outcome.check_bind_eq_ok]
  constructor
  · rintro ⟨directories, hd, files, hf, hdr, hfr, h⟩
    split at h
    · simp at h
    · next hsort =>
      split at h
      · simp at h
      · next hnested =>
        rw [Outcome.check_bind_eq_ok, Outcome.forM_eq_ok, Outcome.forM_eq_ok] at h
        exact ⟨directories, files, hd, hf, hdr, hfr, hsort, hnested, h⟩
  · rintro ⟨directories, files, hd, hf, hdr, hfr, hsort, hnested, h⟩
    refine ⟨directories, hd, files, hf, hdr, hfr, ?_⟩
    rw [hsort, hnested]
    simpa only [Outcome.check_bind_eq_ok, Outcome.forM_eq_ok] using h

theorem liftM_mismatch {α : Type} (x : Except Value.Mismatch α) :
    (liftM x : Except (Raised Rejection) α) = x.mapError fun _ => .plain .wrongType := rfl

theorem comparable_eq_ok {values : List Value} :
    comparable values = .ok () ↔ ∀ v ∈ values, v.isAtomic = true := by
  unfold comparable
  split <;> simp_all

/-- Units that are enabled or disabled can be compared, and none is both. -/
theorem checkServices_eq_ok {c : Customizations} :
    let s := c.services.getD {}
    checkServices c = .ok () ↔ (∀ v ∈ s.enabled ++ s.disabled, v.isAtomic = true) ∧
      ∀ v ∈ s.enabled, v.isIn s.disabled = false := by
  unfold checkServices
  cases c.services with
  | none => simp
  | some s =>
    -- there are names of units that are both only if there are such units
    have hboth : (∃ both, textsOf (s.enabled.filter (Value.isIn · s.disabled)) = .ok both ∧
        both.isEmpty = true) ↔ ∀ v ∈ s.enabled, v.isIn s.disabled = false := by
      constructor
      · rintro ⟨both, h, hempty⟩
        obtain rfl := List.isEmpty_iff.1 hempty
        have hnil := List.forall₂_nil_right_iff.1 (Outcome.mapM_eq_ok.1 h)
        simpa using List.filter_eq_nil_iff.1 hnil
      · intro h
        have hnil : s.enabled.filter (Value.isIn · s.disabled) = [] := by simpa using h
        exact ⟨[], hnil ▸ rfl, rfl⟩
    simp only [Option.getD_some, ← hboth, ← comparable_eq_ok]
    rw [Outcome.check_bind_eq_ok, Outcome.bind_eq_ok]
    simp only [liftM_mismatch, Outcome.mapError_eq_ok, require_eq_ok]

/-- A simplified installer is told where to install to and, if it onboards, with which server. -/
theorem truthy_of_checkSimplifiedInstaller {imageType : String} {c : Customizations}
    (h : checkSimplifiedInstaller imageType c = .ok ()) : c.installationDevice.truthy = true ∧
      ∀ fdo, c.fdo = some fdo → fdo.manufacturingServerUrl.truthy = true := by
  unfold checkSimplifiedInstaller at h
  rw [Outcome.check_bind_eq_ok, require_eq_ok] at h
  refine ⟨h.1, fun fdo hfdo => ?_⟩
  have honboarding := h.2
  rw [hfdo] at honboarding
  exact require_eq_ok.1 (Outcome.check_bind_eq_ok.1 honboarding).1

/-- A mode that passes is none or a well-formed text. -/
theorem isMode_of_checkMode {mode : Value} (h : checkMode mode = .ok ())
    (hn : mode.isNull = false) : ∃ s : String, mode = s ∧ isMode s = true := by
  cases mode with
  | str s => exact ⟨s, rfl, require_eq_ok.1 h⟩
  | null => cases hn
  | _ =>
    simp [checkMode, Value.isNull, Value.asText, Outcome.bind_eq_ok, liftM_mismatch] at h

/-- An address is given only with OSTree options. -/
theorem exists_ostree_of_url {o : Options} (h : o.ostreeUrl.truthy = true) :
    ∃ s, o.ostree = some s := by
  cases ho : o.ostree with
  | some s => exact ⟨s, rfl⟩
  | none => simp [Options.ostreeUrl, ho, Value.truthy] at h

/-- An image that is made from a commit is told where the commit is. -/
theorem Accepted.truthy_ostreeUrl {policy : MountpointPolicy} {t : ImageType} {b : Blueprint}
    {o : Options} (h : Accepted policy t b o) (ht : t.family.takesCommit = true) :
    o.ostreeUrl.truthy = true := by
  cases hf : t.family with
  | ostreeDisk => exact h.diskUrl hf
  | ostreeInstaller => exact h.bootIsoUrl (by rw [hf]; rfl)
  | simplifiedInstaller => exact h.bootIsoUrl (by rw [hf]; rfl)
  | _ => simp [hf, Catalog.Family.takesCommit] at ht

/-- An image that is made from a commit has OSTree options. -/
theorem Accepted.exists_ostree {policy : MountpointPolicy} {t : ImageType} {b : Blueprint}
    {o : Options} (h : Accepted policy t b o) (ht : t.family.takesCommit = true) :
    ∃ s, o.ostree = some s := exists_ostree_of_url (h.truthy_ostreeUrl ht)

end Imagewright.Request
