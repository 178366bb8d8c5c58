import Imagewright.Proofs.Blueprint.Usable
import Imagewright.Proofs.Request.Accepted

/-!
# Why requests are rejected

Most checks have reasons of their own, and their rejections carry the tag that they are told. Two
reasons come from elsewhere: a value of the wrong type, which a blueprint with usable values does
not hold, and what the check of mountpoints finds. Only the check of directories and files has
something to say about their paths, and only that of the allowed kinds about kinds.

## Main definitions

* `Request.Rejection.Plain`: a check of requests has found a reason of its own.
* `Request.Rejection.OfPaths`: the paths of directories and files are a reason.
* `Request.Rejection.OfKinds`: the kinds of customizations are a reason.

## Main statements

* `Request.failsWith_checkTree`, `Request.failsWith_checks`: where the reasons come from.
* `Request.ne_wrongType_of_validate`: usable values are not of the wrong type.
* `Request.tag_of_validateFor`: the tags of rejections.
-/
namespace Imagewright.Request

open Blueprint (Customizations)
open Catalog (ImageType)
open Disk (MountpointError MountpointPolicy)
open Outcome

/-- A check of requests has found a reason of its own. -/
def Rejection.Plain : Rejection → Prop
  | .wrongType | .mountpoints _ => False
  | _ => True

/-- The paths of directories and files are the reason. -/
def Rejection.OfPaths : Rejection → Prop
  | .badPath _ | .duplicatePath _ _ | .fileAndDirectory _ | .fileUnderFile _ _ => True
  | _ => False

/-- The kinds of customizations are the reason. -/
def Rejection.OfKinds : Rejection → Prop
  | .unsupported .. => True
  | _ => False

section

variable {P : Raised Rejection → Prop} {id : String}

theorem failsWith_require {ok : Bool} {r : Rejection} (hr : P (.tagged r id)) :
    FailsWith P (require ok r id) := by
  unfold require
  split
  · exact failsWith_ok ()
  · exact failsWith_error hr

/-! ## Checks that read texts -/

theorem failsWith_liftM {α : Type} {x : Except Value.Mismatch α}
    (h : Succeeds x ∨ P (.plain .wrongType)) :
    FailsWith P (liftM x : Except (Raised Rejection) α) := by
  intro r hr
  rw [liftM_mismatch] at hr
  obtain ⟨m, hm, rfl⟩ := mapError_eq_error.1 hr
  rcases h with ⟨a, ha⟩ | h
  · cases ha.symm.trans hm
  · exact h

theorem failsWith_checkPath {path : Value} (hbad : ∀ path, P (.tagged (.badPath path) id))
    (h : path.isText = true ∨ P (.plain .wrongType)) : FailsWith P (checkPath path id) :=
  failsWith_bind (failsWith_liftM (h.imp_left Value.succeeds_asText)) fun path _ =>
    failsWith_bind (failsWith_require (hbad path)) fun _ _ => failsWith_ok _

theorem failsWith_checkMode {mode : Value} (hbad : ∀ mode, P (.tagged (.badMode mode) id))
    (h : mode.orNull Value.isText = true ∨ P (.plain .wrongType)) :
    FailsWith P (checkMode mode id) := by
  unfold checkMode
  split
  · exact failsWith_ok ()
  · next hnull =>
    have htext : mode.isText = true ∨ P (.plain .wrongType) := by
      simpa [Value.orNull, hnull] using h
    exact failsWith_bind (failsWith_liftM (htext.imp_left Value.succeeds_asText)) fun mode _ =>
      failsWith_require (hbad mode)

theorem failsWith_checkRepeats {kind : NodeKind}
    (hbad : ∀ path, P (.tagged (.duplicatePath kind path) id)) (paths : List String) :
    FailsWith P (checkRepeats kind paths id) := by
  unfold checkRepeats
  split
  · exact failsWith_error (hbad _)
  · exact failsWith_ok ()

theorem failsWith_checkTree {c : Customizations}
    (hP : ∀ r : Rejection, r.Plain → ¬ r.OfKinds → P (.tagged r id))
    (h : c.Usable ∨ P (.plain .wrongType)) : FailsWith P (checkTree c id) := by
  have hpath : ∀ path, P (.tagged (.badPath path) id) := fun _ => hP _ trivial fun h => h
  have hmode : ∀ mode, P (.tagged (.badMode mode) id) := fun _ => hP _ trivial fun h => h
  refine failsWith_bind (failsWith_mapM fun d hd =>
    failsWith_checkPath hpath (h.imp_left (·.directories d hd |>.1))) fun directories _ => ?_
  refine failsWith_bind (failsWith_mapM fun f hf =>
    failsWith_checkPath hpath (h.imp_left (·.files f hf |>.1))) fun files _ => ?_
  refine failsWith_bind (failsWith_checkRepeats (fun _ => hP _ trivial fun h => h) _) fun _ _ => ?_
  refine failsWith_bind (failsWith_checkRepeats (fun _ => hP _ trivial fun h => h) _) fun _ _ => ?_
  cases Text.sort (directories.filter files.contains) with
  | cons path _ => exact failsWith_error (hP (.fileAndDirectory path) trivial fun h => h)
  | nil =>
    cases firstNested files with
    | some nested =>
      exact failsWith_error (hP (.fileUnderFile nested.1 nested.2) trivial fun h => h)
    | none =>
      refine failsWith_bind (failsWith_forM fun d hd =>
        failsWith_checkMode hmode (h.imp_left (·.directories d hd |>.2))) fun _ _ => ?_
      exact failsWith_forM fun f hf =>
        failsWith_checkMode hmode (h.imp_left (·.files f hf |>.2))

theorem failsWith_checkAllowed (t : ImageType) (c : Customizations)
    (hbad : ∀ disallowed allowed,
      P (.tagged (.unsupported t.name t.family.bootIso disallowed allowed) id)) :
    FailsWith P (checkAllowed t c id) := by
  unfold checkAllowed
  split
  · exact failsWith_ok ()
  · exact failsWith_require (hbad _ _)

/-! ## Checks that have nothing to say about paths or kinds -/

variable (hP : ∀ r : Rejection, r.Plain → ¬ r.OfPaths → ¬ r.OfKinds → P (.tagged r id))

include hP

/-- A check with a reason of its own that has nothing to do with paths or kinds. -/
theorem failsWith_require_of_plain {ok : Bool} {r : Rejection} (hr : r.Plain)
    (hpaths : ¬ r.OfPaths) (hkinds : ¬ r.OfKinds) : FailsWith P (require ok r id) :=
  failsWith_require (hP r hr hpaths hkinds)

theorem failsWith_checkOstree (o : OstreeOptions) : FailsWith P (checkOstree o id) :=
  failsWith_bind (failsWith_require_of_plain hP trivial nofun nofun) fun _ _ =>
    failsWith_bind (failsWith_require_of_plain hP trivial nofun nofun) fun _ _ =>
      failsWith_require_of_plain hP trivial nofun nofun

theorem failsWith_checkSimplifiedInstaller (imageType : String) (c : Customizations) :
    FailsWith P (checkSimplifiedInstaller imageType c id) := by
  refine failsWith_bind (failsWith_require_of_plain hP trivial nofun nofun) fun _ _ => ?_
  split
  · exact failsWith_bind (failsWith_require_of_plain hP trivial nofun nofun) fun _ _ =>
      failsWith_require_of_plain hP trivial nofun nofun
  · exact failsWith_ok ()

theorem failsWith_checkCommit (c : Customizations) : FailsWith P (checkCommit c id) :=
  failsWith_bind (failsWith_require_of_plain hP trivial nofun nofun) fun _ _ =>
    failsWith_require_of_plain hP trivial nofun nofun

theorem failsWith_checkServices {c : Customizations} (h : c.Usable ∨ P (.plain .wrongType)) :
    FailsWith P (checkServices c id) := by
  unfold checkServices
  split
  · exact failsWith_ok ()
  · next s hs =>
    have hunits : s.Usable ∨ P (.plain .wrongType) := h.imp_left (·.units s hs)
    refine failsWith_bind (failsWith_liftM (hunits.imp_left fun hs => ?_)) fun _ _ =>
      failsWith_bind (failsWith_liftM (hunits.imp_left fun hs => ?_)) fun _ _ =>
        failsWith_require_of_plain hP trivial nofun nofun
    · exact ⟨(), comparable_eq_ok.2 hs.atomic⟩
    · refine succeeds_mapM fun v hv => Value.succeeds_asText ?_
      obtain ⟨hv, hboth⟩ := List.mem_filter.1 hv
      exact hs.both v hv hboth

/-! ## All checks -/

theorem failsWith_checks {policy : MountpointPolicy} {t : ImageType} {b : Blueprint} {o : Options}
    (h : b.settings.Usable ∨ P (.plain .wrongType))
    (hallowed : FailsWith P (checkAllowed t b.settings id))
    (htree : FailsWith P (checkTree b.settings id))
    (hm : ∀ m, Disk.checkMountpoints policy b.settings.filesystem = .error m →
      (m = .wrongType → P (.plain .wrongType)) ∧
        (m ≠ .wrongType → P (.tagged (.mountpoints m)))) :
    FailsWith P (validateFor policy t b o id) := by
  unfold validateFor
  cases o.ostree
  case' some s => refine failsWith_bind (failsWith_checkOstree hP s) fun _ _ => ?_
  -- With OSTree options or without them, the other checks are the same.
  all_goals
    refine failsWith_ite_check (failsWith_require_of_plain hP trivial nofun nofun) ?_
    refine failsWith_bind hallowed fun _ _ => ?_
    refine failsWith_ite_check (failsWith_checkSimplifiedInstaller hP _ _) ?_
    refine failsWith_ite_check (failsWith_checkCommit hP _) ?_
    cases hcheck : Disk.checkMountpoints policy b.settings.filesystem with
    | error m =>
      cases m with
      | wrongType => exact failsWith_error ((hm _ hcheck).1 rfl)
      | _ => exact failsWith_error ((hm _ hcheck).2 (by simp))
    | ok sized =>
      refine failsWith_ite_check (failsWith_require_of_plain hP trivial nofun nofun) ?_
      exact failsWith_bind htree fun _ _ =>
        failsWith_bind (failsWith_checkServices hP h) fun _ _ => failsWith_ok _

end

section

variable {policy : MountpointPolicy} {t : ImageType} {b : Blueprint} {o : Options}

theorem failsWith_validateFor {P : Raised Rejection → Prop} {id : String}
    (hP : ∀ r : Rejection, r.Plain → ¬ r.OfPaths → P (.tagged r id))
    (h : b.settings.Usable ∨ P (.plain .wrongType))
    (htree : FailsWith P (checkTree b.settings id))
    (hm : ∀ m, Disk.checkMountpoints policy b.settings.filesystem = .error m →
      (m = .wrongType → P (.plain .wrongType)) ∧
        (m ≠ .wrongType → P (.tagged (.mountpoints m)))) :
    FailsWith P (validateFor policy t b o id) :=
  failsWith_checks (fun r hr hpaths _ => hP r hr hpaths) h
    (failsWith_checkAllowed t _ fun _ _ => hP _ trivial nofun) htree hm

/-- What a rejection is, where nobody looks at its tag. -/
theorem of_failsWith_validateFor {P : Rejection → Prop} {r : Rejection}
    (hreasons : FailsWith (fun r => P r.error) (validateFor policy t b o ""))
    (h : validate policy t b o = .error r) : P r := by
  obtain ⟨tag, hr⟩ := Raised.untagged_eq_error.1 h
  exact hreasons _ hr

theorem failsWith_checkMountpoints (hb : b.settings.Usable) :
    FailsWith (· ≠ .wrongType) (Disk.checkMountpoints policy b.settings.filesystem) := by
  have hsized : FailsWith (· ≠ .wrongType) (b.settings.filesystem.mapM Disk.sizedPath) := by
    refine failsWith_mapM fun r hr => ?_
    obtain ⟨path, hpath⟩ := Value.isText_iff.1 (hb.mountpoints r hr)
    rw [Disk.sizedPath, hpath]
    exact failsWith_ok _
  refine failsWith_bind hsized fun sized _ => failsWith_bind ?_ fun _ _ => failsWith_ok _
  dsimp only [Disk.checkPaths]
  split_ifs
  · exact failsWith_error (by simp)
  · exact failsWith_error (by simp)
  · exact failsWith_ok ()

/-- A blueprint whose values can be used is not rejected for a value of the wrong type. -/
theorem ne_wrongType_of_validate (hb : b.settings.Usable) {r : Rejection}
    (h : validate policy t b o = .error r) : r ≠ .wrongType ∧ r ≠ .mountpoints .wrongType := by
  have hplain : ∀ r : Rejection, r.Plain → r ≠ .wrongType ∧ r ≠ .mountpoints .wrongType := by
    intro r hr
    cases r <;> simp [Rejection.Plain] at hr ⊢
  refine of_failsWith_validateFor (P := fun r => r ≠ .wrongType ∧ r ≠ .mountpoints .wrongType)
    (failsWith_validateFor (fun r hr _ => hplain r hr) (.inl hb)
      (failsWith_checkTree (fun r hr _ => hplain r hr) (.inl hb)) fun m hm => ?_) h
  have hne : m ≠ .wrongType := failsWith_checkMountpoints hb m hm
  exact ⟨fun heq => absurd heq hne,
    fun _ => ⟨nofun, fun heq => hne (Rejection.mountpoints.inj heq)⟩⟩

/-- A rejection carries the tag of the request. Values of the wrong type have no place for it, and
the check of mountpoints knows nothing about requests. -/
theorem tag_of_validateFor {id : String} {r : Raised Rejection}
    (h : validateFor policy t b o id = .error r) :
    r.error.Plain ∧ r.tag = some id ∨ r = .plain .wrongType ∨ ∃ m,
      Disk.checkMountpoints policy b.settings.filesystem = .error m ∧ m ≠ .wrongType ∧
        r = .tagged (.mountpoints m) := by
  have hplain : ∀ r : Rejection, r.Plain → (Raised.tagged r id).error.Plain ∧
      (Raised.tagged r id).tag = some id := fun r hr => ⟨hr, rfl⟩
  refine failsWith_validateFor (P := fun r => r.error.Plain ∧ r.tag = some id ∨
    r = .plain .wrongType ∨ ∃ m, Disk.checkMountpoints policy b.settings.filesystem = .error m ∧
      m ≠ .wrongType ∧ r = .tagged (.mountpoints m))
    (fun r hr _ => .inl (hplain r hr)) (.inr (.inr (.inl rfl)))
    (failsWith_checkTree (fun r hr _ => .inl (hplain r hr)) (.inr (.inr (.inl rfl))))
    (fun m hm => ⟨fun _ => .inr (.inl rfl), fun hne => .inr (.inr ⟨m, hm, hne, rfl⟩)⟩) r h

end

end Imagewright.Request
