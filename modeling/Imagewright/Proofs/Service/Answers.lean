import Imagewright.Proofs.Blueprint.Usable
import Imagewright.Proofs.Compose.Execution
import Imagewright.Proofs.Request.Rejections
import Imagewright.Service.Basic
import Imagewright.Service.Standard

/-!
# What is answered to a request for a manifest

A request is answered with a manifest, or with a problem that is the caller's or the resolver's,
where the values of its blueprint can be used as what they are used as. Others may end in an
internal error.

## Main definitions

* `Service.Told`: an answer tells of a manifest or of a problem.
* `Service.ManifestForm.Usable`: the values of the blueprint of a form can be used.

## Main statements

* `Service.exists_commandProblem`, `Service.exists_requestProblem`, `Service.exists_composeProblem`:
  every error is told.
* `Service.told_generate`: what is answered to a form.
* `Service.generate_number`: a mountpoint that is a number ends in an internal error.
-/
namespace Imagewright.Service

open Compose (Command Environment Pass)

def Problem.statuses : List Nat := [400, 404, 502, 504]

/-- An answer tells of a manifest or of a problem. -/
inductive Told (id : CorrelationId) : Reply → Prop
  | manifest (v : Value) : Told id (.document 200 v)
  | problem {p : Problem} (h : p.status ∈ Problem.statuses) : Told id (p.reply id)

theorem status_of_told {id : CorrelationId} {r : Reply} (h : Told id r) :
    r.status ∈ 200 :: Problem.statuses := by
  cases h with
  | manifest v => exact List.mem_cons_self
  | problem hp => exact List.mem_cons_of_mem _ hp

/-! ## Problems of composes -/

theorem exists_rejectionProblem {r : Imagewright.Request.Rejection}
    (h : r ≠ .wrongType ∧ r ≠ .mountpoints .wrongType) :
    ∃ p, rejectionProblem? r = some p ∧ p.status ∈ Problem.statuses := by
  cases r with
  | wrongType => exact absurd rfl h.1
  | mountpoints m =>
    cases m with
    | wrongType => exact absurd rfl h.2
    | _ => exact ⟨_, rfl, by simp [Problem.statuses]⟩
  | _ => exact ⟨_, rfl, by simp [Problem.statuses]⟩

theorem exists_resolutionProblem {x : Compose.ResolutionError} (h : x ≠ .noDeadline) :
    ∃ p, resolutionProblem? x = some p ∧ p.status ∈ Problem.statuses := by
  cases x with
  | noDeadline => exact absurd rfl h
  | failed pipeline f => cases f <;> exact ⟨_, rfl, by simp [Problem.statuses]⟩
  | _ => exact ⟨_, rfl, by simp [Problem.statuses]⟩

/-- A request that is rejected, or for which nothing can be built, has a problem that can be
told. -/
theorem exists_requestProblem {t : Catalog.Target} (ht : Catalog.Fedora.Listed t)
    {b : Blueprint} (hb : b.settings.UsableFor t.family) {o : Request.Options}
    {rs : List Repository} {seed : Int} {q : Manifest.RequestError}
    (h : Manifest.ofRequest t b o rs seed = .error q) :
    ∃ p, requestProblem? q = some p ∧ p.status ∈ Problem.statuses := by
  rcases Manifest.ofRequest_eq_error.1 h with ⟨r, hr, rfl⟩ | ⟨ws, a, hws, ha, rfl⟩
  · exact exists_rejectionProblem (Request.ne_wrongType_of_validate hb.usable hr)
  · -- What was accepted and can be used can be built, unless the disk is too small.
    have haccepted := (Request.validate_eq_ok.1 hws).1
    rcases Manifest.build_of_accepted ht hb haccepted rs seed with
      ⟨m, hm⟩ | ⟨-, -, needed, -, -, hbuild⟩
    · cases hm.symm.trans ha
    · obtain rfl := Except.error.inj (hbuild.symm.trans ha)
      exact ⟨_, rfl, by simp [Problem.statuses]⟩

/-- A compose fails with a problem that can be told, where the values of its blueprint can be used
for the image that is asked for. -/
theorem exists_composeProblem {e : Environment} {c : Command} {passes : List Pass}
    {err : Compose.Error} (he : e.registry = Catalog.Fedora.registry)
    (hrepositories : Outcome.Succeeds (e.configured c.distribution c.architecture))
    (ht : e.timeout.seconds.toDouble?.isSome = true)
    (hb : ∀ t, e.registry.get c.distribution c.architecture c.imageType = .ok t →
      c.blueprint.settings.UsableFor t.family)
    (h : Compose.execute e c passes = .error err) :
    ∃ p, composeProblem? err = some p ∧ p.status ∈ Problem.statuses := by
  rcases Compose.ends_cases (Compose.ends_iff_execute.2 ⟨passes, h⟩) with
    ⟨_, hprepare, heq⟩ | ⟨p, -, ⟨y, _, hy, heq⟩ | ⟨_, -, heq⟩⟩
  · obtain rfl := Except.error.inj heq
    rcases Compose.prepare_eq_error.1 hprepare with
      ⟨l, -, rfl⟩ | ⟨t, hget, ⟨f, hf, rfl⟩ | ⟨rs, q, -, hq, rfl⟩⟩
    · exact ⟨lookupProblem l, rfl, by simp [Problem.statuses, lookupProblem]⟩
    · unfold Compose.chooseRepositories at hf
      split at hf
      · obtain ⟨rs, hrs⟩ := hrepositories
        cases hrs.symm.trans hf
      · cases hf
    · have hlisted := Catalog.Fedora.listed_of_get (he ▸ hget)
      exact exists_requestProblem hlisted (hb t hget) (Manifest.ofRequest_of_error hq)
  · obtain rfl := Except.error.inj heq
    rcases Compose.failsWith_resolve _ _ y hy with ⟨hne, -⟩ | ⟨hnone, -⟩
    · exact exists_resolutionProblem hne
    · simp [Option.isNone_iff_eq_none] at hnone
      simp [hnone] at ht
  · cases heq

/-! ## Problems of forms -/

variable {s : Service} {form : ManifestForm} {id : CorrelationId}

/-- A blueprint is malformed or invalid, if the reader of TOML does not break. -/
theorem failsWith_readBlueprint {toml : Blueprint.TomlReader}
    (htoml : ∀ content, toml content ≠ .error .broken) : Outcome.FailsWith
      (fun e => e = .malformed .toml ∨ ∃ x, e = .invalid x) (form.readBlueprint toml) := by
  have hdecode : ∀ v, Outcome.FailsWith (fun e => e = .malformed .toml ∨ ∃ x, e = .invalid x)
      ((Blueprint.decode v).mapError Blueprint.LoadError.invalid) := by
    intro v e he
    obtain ⟨x, -, rfl⟩ := Outcome.mapError_eq_error.1 he
    exact .inr ⟨x, rfl⟩
  unfold ManifestForm.readBlueprint
  split
  · refine Outcome.failsWith_bind (fun e he => ?_) fun v _ => hdecode v
    dsimp only [Blueprint.readValue] at he
    split at he
    · cases he
    · exact .inl (Except.error.inj he).symm
    · next hbroken => exact absurd hbroken (htoml _)
  · exact hdecode _
  · exact Outcome.failsWith_ok _

/-- A form that asks for nothing is told so, if the reader of TOML does not break. -/
theorem exists_commandProblem {toml : Blueprint.TomlReader}
    (htoml : ∀ content, toml content ≠ .error .broken) {err : ManifestForm.CommandError}
    (h : form.command toml id = .error err) :
    ∃ p, commandProblem? err = some p ∧ p.status ∈ Problem.statuses := by
  rcases Outcome.bind_eq_error.1 h with hblueprint | ⟨b, -, hrest⟩
  · obtain ⟨e, he, rfl⟩ := Outcome.mapError_eq_error.1 hblueprint
    rcases failsWith_readBlueprint htoml e he with rfl | ⟨x, rfl⟩
    · exact ⟨_, rfl, by simp [Problem.statuses]⟩
    · exact ⟨_, rfl, by simp [Problem.statuses]⟩
  · rcases Outcome.bind_eq_error.1 hrest with hrepositories | ⟨rs, -, hdone⟩
    · obtain ⟨d, -, rfl⟩ := Outcome.mapError_eq_error.1 hrepositories
      exact ⟨_, rfl, by simp [Problem.statuses]⟩
    · cases hdone

/-! ## Answers -/

/-- The values of the blueprint of a form, if it has one, can be used for the image that is asked
for. -/
def ManifestForm.Usable (s : Service) (form : ManifestForm) : Prop :=
  ∀ b t, form.readBlueprint s.library.readToml = .ok b →
    s.registry.get form.distribution form.architecture form.imageType = .ok t →
    b.settings.UsableFor t.family

theorem command_eq_ok {toml : Blueprint.TomlReader} {c : Command}
    (h : form.command toml id = .ok c) :
    form.readBlueprint toml = .ok c.blueprint ∧ c.distribution = form.distribution ∧
      c.architecture = form.architecture ∧ c.imageType = form.imageType := by
  obtain ⟨b, hb, h⟩ := Outcome.bind_eq_ok.1 h
  obtain ⟨rs, -, hc⟩ := Outcome.bind_eq_ok.1 h
  obtain rfl := Except.ok.inj hc
  exact ⟨Outcome.mapError_eq_ok.1 hb, rfl, rfl, rfl⟩

theorem told_ofProblem {p : Option Problem}
    (h : ∃ q, p = some q ∧ q.status ∈ Problem.statuses) : Told id (.ofProblem? id p) := by
  obtain ⟨q, rfl, hstatus⟩ := h
  exact .problem hstatus

/-- What is answered to a form, and what is sent. -/
theorem told_generate (hl : s.library.Documented) (hs : s.registry = Catalog.Fedora.registry)
    (hrepositories : Outcome.Succeeds (s.configured form.distribution form.architecture))
    {timeout : Timeout} (ht : timeout.seconds.toDouble?.isSome = true) (passes : List Pass)
    (hform : form.Usable s) :
    Told id (s.generate timeout passes id form) ∧
      ((s.generate timeout passes id form).Showable →
        Told id (s.library.send (s.generate timeout passes id form))) := by
  have htold : Told id (s.generate timeout passes id form) := by
    unfold generate
    cases hc : form.command s.library.readToml id with
    | error err => exact told_ofProblem (exists_commandProblem hl.readToml hc)
    | ok c =>
      obtain ⟨hblueprint, hdistribution, harchitecture, himageType⟩ := command_eq_ok hc
      dsimp only
      cases hx : Compose.execute ⟨s.registry, s.configured, s.resolver, timeout⟩ c passes with
      | ok r => exact .manifest _
      | error err =>
        refine told_ofProblem (exists_composeProblem hs ?_ ht (fun t hget => ?_) hx)
        · rw [hdistribution, harchitecture]
          exact hrepositories
        · rw [hdistribution, harchitecture, himageType] at hget
          exact hform _ t hblueprint hget
  exact ⟨htold, fun hshowable => (hl.send _ hshowable).symm ▸ htold⟩

/-- The catalog of Fedora, where nothing is configured and no request has any packages. -/
def bare : Service where
  registry := Catalog.Fedora.registry
  configured _ _ := .ok []
  resolver _ := .ok []
  library := .standard

def sampleId : CorrelationId :=
  ⟨"corr-1", Compose.length_sampleTag, Compose.isCorrelationText_sampleTag⟩

/-- A form that asks for a virtual machine with a filesystem somewhere. -/
def formWithMountpoint (mountpoint : Value) : ManifestForm where
  distribution := "fedora-38"
  architecture := "x86_64"
  imageType := "qcow2"
  blueprint := some (.obj [
    ("customizations", .obj [("filesystem", .list [.obj [("mountpoint", mountpoint)]])])])
  blueprintToml := none
  size := 0
  ostree := none
  repositories := []
  seed := 0

def commandWithMountpoint (mountpoint : Value) : Command where
  correlationId := sampleId
  distribution := "fedora-38"
  architecture := "x86_64"
  imageType := "qcow2"
  blueprint := { customizations := some { filesystem := [⟨mountpoint, 0⟩] } }

theorem command_formWithMountpoint (mountpoint : Value) :
    (formWithMountpoint mountpoint).command bare.library.readToml sampleId =
      .ok (commandWithMountpoint mountpoint) := rfl

/-- What the service runs with does as is known about the libraries. -/
theorem Library.documented_standard : Library.standard.Documented where
  readToml content := by
    simp only [Library.standard, Toml.reader]
    split <;> simp
  send r hr := by
    cases r with
    | document status body => exact if_pos hr
    | faulty faults => exact if_pos (List.all_eq_true.2 hr)

theorem told_generate_text :
    (formWithMountpoint "/etc").Usable bare ∧
      (bare.generate .standard [] sampleId (formWithMountpoint "/etc")).status ∈
        200 :: Problem.statuses := by
  have hform : (formWithMountpoint "/etc").Usable bare := by
    intro b t hb _
    have hread : (formWithMountpoint "/etc").readBlueprint bare.library.readToml =
        .ok (commandWithMountpoint "/etc").blueprint := rfl
    obtain rfl := Except.ok.inj (hread.symm.trans hb)
    have hwell : (commandWithMountpoint "/etc").blueprint.settings.WellTyped := by
      constructor <;> simp [commandWithMountpoint, Blueprint.settings, Value.orNull, Value.isNull,
        Value.isText]
    exact hwell.usableFor t.family
  have htold := @told_generate bare (formWithMountpoint "/etc") sampleId
    Library.documented_standard rfl (Outcome.succeeds_ok []) .standard (by decide) [] hform
  exact ⟨hform, status_of_told htold.1⟩

/-- A mountpoint that is a number. -/
theorem generate_number :
    bare.generate .standard [] sampleId (formWithMountpoint (.int 5)) = .internalError := by
  obtain ⟨⟨_, _, ⟨d, h₁, h₂, h₃⟩, _⟩, ht, rfl, rfl, hd, -⟩ := Catalog.Fedora.get_qcow2
  obtain rfl : d = Catalog.Fedora.drafts[14] := hd
  have hv : Request.validateFor .standard ⟨Catalog.Fedora.drafts[14], h₁, h₂, h₃⟩
      (commandWithMountpoint (.int 5)).blueprint {} sampleId.text =
        .error (.plain .wrongType) := rfl
  have hexecute := Compose.execute_of_rejected
    (e := ⟨bare.registry, bare.configured, bare.resolver, .standard⟩)
    (c := commandWithMountpoint (.int 5)) ht rfl hv []
  simp only [generate, command_formWithMountpoint, hexecute]
  rfl

end Imagewright.Service
