import Imagewright.Proofs.Compose.Execution
import Imagewright.Proofs.Request.Rejections

/-!
# The tags of errors

An error of the catalog, of disks or of packages carries the tag of its command, unless it is the
check of a request that finds a mountpoint it does not accept: then the tag is empty.

## Main definitions

* `Compose.Error.isDomain`: an error of the catalog, of disks or of packages.
* `Compose.Error.RejectsMountpoints`: the check of a request has found mountpoints.

## Main statements

* `Compose.tag_of_ofRequestFor`: the same for what comes before the packages.
* `Compose.tag_of_execute`: which errors of a compose carry the tag of its command.
-/
namespace Imagewright

/-! ## Errors of the domain -/

/-- A reason of the catalog or of disks, and no value of the wrong type. -/
def Request.Rejection.isDomain : Rejection → Bool
  | .wrongType | .mountpoints .wrongType => false
  | .mountpoints (.dirty _) | .mountpoints (.unsupported _) => true
  | .invalidRef .. | .parentWithoutUrl | .noCommitUrl .. | .unsupported .. | .noInstallationDevice _
  | .noOnboardingServer _ | .noSingleOnboardingKey _ | .kernelOptionsOfCommit | .mountpointsOfCommit
  | .badPath _ | .duplicatePath .. | .fileAndDirectory _ | .fileUnderFile .. | .badMode _
  | .enabledAndDisabled _ => true

/-- A reason of disks, and neither a value of the wrong type nor a table without a root. -/
def Disk.PlanError.isDomain : PlanError → Bool
  | .mountpoints .wrongType | .wrongType | .noRoot => false
  | .mountpoints (.dirty _) | .mountpoints (.unsupported _) | .insufficient .. => true

namespace Compose

variable {e : Environment} {c : Command}

/-- An error of the catalog, of disks or of packages. The others are values of the wrong type, what
cannot be read or computed with, and defects of the catalog. -/
def Error.isDomain : Error → Bool
  | .lookup _ => true
  | .request _ ⟨.rejected r, _⟩ => r.isDomain
  | .request _ ⟨.unbuilt (.disk d), _⟩ => d.isDomain
  | .request _ ⟨.unbuilt (.pipelines _), _⟩ => false
  | .resolution ⟨.noDeadline, _⟩ => false
  | .resolution ⟨.cancelled, _⟩ | .resolution ⟨.timedOut _, _⟩ | .resolution ⟨.failed .., _⟩ => true
  | .repositories _ | .missingSpecs _ => false

/-- The check of a request has found mountpoints that it does not accept. -/
def Error.RejectsMountpoints : Error → Prop
  | .request _ q => ∃ m, q.error = .rejected (.mountpoints m)
  | .lookup _ | .repositories _ | .resolution _ | .missingSpecs _ => False

/-! ## Their tags -/

/-- Errors of disks get their tag where they are passed on. -/
theorem tag_retag_raised {d : Disk.PlanError} (hd : d.isDomain = true) (id : String) :
    (d.raised.retag id).tag = some id := by
  cases d with
  | wrongType | noRoot => cases hd
  | insufficient => rfl
  | mountpoints m =>
    cases m with
    | wrongType => cases hd
    | dirty | unsupported => rfl

/-- What a request ends with before its packages are resolved. Only the check of mountpoints knows
nothing about the request. -/
theorem tag_of_ofRequestFor {t : Catalog.Target} {rs : List Repository} {id name : String}
    {q : Raised Manifest.RequestError}
    (h : Manifest.ofRequestFor t c.blueprint c.options rs c.seed id = .error q)
    (hd : (Error.request name q).isDomain = true) :
    (¬ (Error.request name q).RejectsMountpoints ∧ q.tag = some id) ∨ ∃ m,
      Disk.checkMountpoints t.release.mountpointPolicy c.blueprint.settings.filesystem = .error m ∧
        q = .tagged (.rejected (.mountpoints m)) := by
  unfold Manifest.ofRequestFor at h
  rcases Outcome.bind_eq_error.1 h with hrejected | ⟨ws, -, hbuild⟩
  · obtain ⟨r, hr, rfl⟩ := Outcome.mapError_eq_error.1 hrejected
    rcases Request.tag_of_validateFor hr with ⟨hplain, htag⟩ | rfl | ⟨m, hm, -, rfl⟩
    · refine .inl ⟨?_, htag⟩
      rintro ⟨m, hm⟩
      rw [Manifest.RequestError.rejected.inj hm] at hplain
      exact hplain
    · cases hd
    · exact .inr ⟨m, hm, rfl⟩
  · rcases Outcome.bind_eq_error.1 hbuild with herror | ⟨m, -, hdone⟩
    · obtain ⟨x, hx, rfl⟩ := Outcome.mapError_eq_error.1 herror
      rcases Manifest.raised_of_buildFor hx with ⟨d, rfl⟩ | ⟨a, rfl⟩
      · have hdisk : d.isDomain = true := Manifest.error_raised d ▸ hd
        exact .inl ⟨nofun, tag_retag_raised hdisk id⟩
      · cases hd
    · cases hdone

/-- An error of the catalog, of disks or of packages carries the tag of its command, unless the
check of the request has found mountpoints that it does not accept. Then the tag is empty. -/
theorem tag_of_execute {passes : List Pass} {err : Error} (h : execute e c passes = .error err)
    (hd : err.isDomain = true) :
    (¬ err.RejectsMountpoints ∧ err.tag = some c.correlationId.text) ∨
      err.tag = some "" ∧ ∃ t m,
        e.registry.get c.distribution c.architecture c.imageType = .ok t ∧
        Disk.checkMountpoints t.release.mountpointPolicy c.blueprint.settings.filesystem =
          .error m ∧ err = .request t.name (.tagged (.rejected (.mountpoints m))) := by
  rcases ends_cases (ends_iff_execute.2 ⟨passes, h⟩) with
    ⟨err, hprepare, heq⟩ | ⟨p, hp, ⟨r, passes, hr, heq⟩ | ⟨resolution, -, heq⟩⟩
  · obtain rfl := Except.error.inj heq
    rcases prepare_eq_error.1 hprepare with
      ⟨l, -, rfl⟩ | ⟨t, ht, ⟨f, -, rfl⟩ | ⟨rs, q, -, hq, rfl⟩⟩
    · exact .inl ⟨id, rfl⟩
    · cases hd
    · rcases tag_of_ofRequestFor hq hd with htagged | ⟨m, hm, rfl⟩
      · exact .inl htagged
      · exact .inr ⟨rfl, t, m, ht, hm, rfl⟩
  · obtain rfl := Except.error.inj heq
    rcases failsWith_resolve _ _ r hr with ⟨-, htag⟩ | ⟨-, rfl⟩
    · rw [(prepare_eq_ok.1 hp).1] at htag
      exact .inl ⟨id, htag⟩
    · cases hd
  · cases heq

/-- A command for a disk image that is made from a commit, which is nowhere to be found. -/
def Command.withoutCommit : Command := { Command.iotRawImage with options := {} }

theorem tag_of_execute_withoutCommit :
    ∃ err, execute .bare .withoutCommit [] = .error err ∧ err.isDomain = true ∧
      err.tag = some "corr-1" := by
  obtain ⟨⟨_, _, ⟨d, h₁, h₂, h₃⟩, _⟩, ht, rfl, rfl, hd, -⟩ := Catalog.Fedora.get_iotRawImage
  obtain rfl : d = Catalog.Fedora.drafts[7] := hd
  have hv : Request.validateFor .standard ⟨Catalog.Fedora.drafts[7], h₁, h₂, h₃⟩ {} {} "corr-1" =
      .error (.tagged (.noCommitUrl "iot-raw-image" false) "corr-1") := rfl
  have hexecute := execute_of_rejected (e := .bare) (c := .withoutCommit) ht rfl hv []
  refine ⟨_, hexecute, rfl, ?_⟩
  rcases tag_of_execute hexecute rfl with ⟨-, htag⟩ | ⟨-, t, m, -, -, heq⟩
  · exact htag
  · cases congrArg Raised.error (Error.request.inj heq).2

/-- A command for a virtual machine with a filesystem where there can be none. -/
def Command.unmountable : Command where
  correlationId := ⟨"corr-1", length_sampleTag, isCorrelationText_sampleTag⟩
  distribution := "fedora-38"
  architecture := "x86_64"
  imageType := "qcow2"
  blueprint := {
    customizations := some { filesystem := [{ mountpoint := "/etc", minSize := 1024 }] } }

/-- The check of mountpoints knows nothing about the command. -/
theorem tag_unmountable :
    ∃ err, execute .bare .unmountable [] = .error err ∧ err.isDomain = true ∧
      err.tag = some "" := by
  obtain ⟨⟨_, _, ⟨d, h₁, h₂, h₃⟩, _⟩, ht, rfl, rfl, hd, -⟩ := Catalog.Fedora.get_qcow2
  obtain rfl : d = Catalog.Fedora.drafts[14] := hd
  have hv : Request.validateFor .standard ⟨Catalog.Fedora.drafts[14], h₁, h₂, h₃⟩
      Command.unmountable.blueprint {} "corr-1" =
        .error (.tagged (.mountpoints (.unsupported ["/etc"]))) := rfl
  exact ⟨_, execute_of_rejected (e := .bare) (c := .unmountable) ht rfl hv [], rfl, rfl⟩

end Compose
end Imagewright
