import Imagewright.Compose.Basic
import Imagewright.Proofs.Compose.Schedules
import Imagewright.Proofs.Manifest.Serialization
import Imagewright.Proofs.Manifest.Totality

/-!
# Composes whose calls run side by side

A compose is prepared, its packages are resolved by calls that run side by side, and what they
bring is written down. However the calls are interleaved, a response is made from all of their
answers, and it is always the same.

## Main definitions

* `Compose.prepare`, `Compose.Prepared.conclude`: a compose before and after its packages.
* `Compose.Ends`: how a compose may end.
* `Compose.Complete`: a response is made from the answers of all calls.

## Main statements

* `Compose.ends_iff_execute`: a compose may end in some way if and only if it does so for a list of
  looks at the calls.
* `Compose.ends_independent`: a response is complete and does not depend on the order of the calls;
  none is made where a call fails, or where cancelling or the timeout is seen.
-/
namespace Imagewright.Compose

variable {e : Environment} {c : Command}

/-! ## Before and after the packages -/

/-- A compose whose packages are to be resolved. -/
structure Prepared where
  target : Catalog.Target
  manifest : Manifest
  warnings : List Request.Warning
  /-- The tag of the command. -/
  tag : String

/-- What comes before any call of the resolver. -/
def prepare (e : Environment) (c : Command) : Except Error Prepared := do
  let target ← lookUp e c
  let repositories ← (chooseRepositories e c).mapError .repositories
  let (manifest, warnings) ← (Manifest.ofRequestFor target c.blueprint c.options repositories
    c.seed c.correlationId.text).mapError (.request target.name)
  return { target, manifest, warnings, tag := c.correlationId.text }

theorem prepare_eq_ok {p : Prepared} : prepare e c = .ok p ↔
    p.tag = c.correlationId.text ∧
      ∃ rs, e.registry.get c.distribution c.architecture c.imageType = .ok p.target ∧
        chooseRepositories e c = .ok rs ∧
          Manifest.ofRequest p.target c.blueprint c.options rs c.seed =
            .ok (p.manifest, p.warnings) := by
  simp only [prepare, lookUp, Outcome.bind_eq_ok, Outcome.mapError_eq_ok, Outcome.pure_eq_ok]
  constructor
  · rintro ⟨t, ht, rs, hrs, ⟨m, ws⟩, hm, rfl⟩
    exact ⟨rfl, rs, ht, hrs, Manifest.ofRequestFor_eq_ok.1 hm⟩
  · obtain ⟨t, m, ws, tag⟩ := p
    rintro ⟨rfl, rs, ht, hrs, hm⟩
    exact ⟨t, ht, rs, hrs, (m, ws), Manifest.ofRequestFor_eq_ok.2 hm, rfl⟩

/-- A compose fails in one of three ways before its packages are resolved. -/
theorem prepare_eq_error {err : Error} : prepare e c = .error err ↔
    (∃ l, e.registry.get c.distribution c.architecture c.imageType = .error l ∧
      err = .lookup (.tagged l c.correlationId.text)) ∨
      ∃ t, e.registry.get c.distribution c.architecture c.imageType = .ok t ∧
        ((∃ f, chooseRepositories e c = .error f ∧ err = .repositories f) ∨
          ∃ rs q, chooseRepositories e c = .ok rs ∧
            Manifest.ofRequestFor t c.blueprint c.options rs c.seed c.correlationId.text =
              .error q ∧ err = .request t.name q) := by
  simp only [prepare, lookUp, Outcome.bind_eq_error, Outcome.mapError_eq_error,
    Outcome.mapError_eq_ok]
  constructor
  · rintro (⟨l, hl, rfl⟩ | ⟨t, ht, ⟨f, hf, rfl⟩ | ⟨rs, hrs, ⟨q, hq, rfl⟩ | ⟨_, _, hdone⟩⟩⟩)
    · exact .inl ⟨l, hl, rfl⟩
    · exact .inr ⟨t, ht, .inl ⟨f, hf, rfl⟩⟩
    · exact .inr ⟨t, ht, .inr ⟨rs, q, hrs, hq, rfl⟩⟩
    · cases hdone
  · rintro (⟨l, hl, rfl⟩ | ⟨t, ht, ⟨f, hf, rfl⟩ | ⟨rs, q, hrs, hq, rfl⟩⟩)
    · exact .inl ⟨l, hl, rfl⟩
    · exact .inr ⟨t, ht, .inl ⟨f, hf, rfl⟩⟩
    · exact .inr ⟨t, ht, .inr ⟨rs, hrs, .inl ⟨q, hq, rfl⟩⟩⟩

namespace Prepared

def calls (p : Prepared) : Calls := callsOf p.target p.manifest

/-- What comes after the last answer. -/
def conclude (p : Prepared) (x : Except (Raised ResolutionError) Manifest.Resolution) :
    Except Error Composition := do
  let resolution ← x.mapError .resolution
  let document ← (p.manifest.serialize resolution).mapError .missingSpecs
  return { p with resolution, document }

end Prepared

theorem execute_eq (passes : List Pass) : execute e c passes =
    prepare e c >>= fun p => p.conclude (resolve e.timeout e.resolver p.calls p.tag passes) := by
  unfold execute prepare
  cases lookUp e c with
  | error err => rfl
  | ok t =>
    cases (chooseRepositories e c).mapError Error.repositories with
    | error err => rfl
    | ok repositories =>
      simp only [Outcome.ok_bind]
      cases (Manifest.ofRequestFor t c.blueprint c.options repositories c.seed
          c.correlationId.text).mapError (Error.request t.name) with
      | error err => rfl
      | ok built => rfl

/-- A compose whose request is rejected ends with the rejection. -/
theorem execute_of_rejected {t : Catalog.Target} {rs : List Repository}
    {r : Raised Request.Rejection}
    (ht : e.registry.get c.distribution c.architecture c.imageType = .ok t)
    (hrs : chooseRepositories e c = .ok rs)
    (hr : Request.validateFor t.release.mountpointPolicy t.imageType c.blueprint c.options
      c.correlationId.text = .error r) (passes : List Pass) :
    execute e c passes = .error (.request t.name (r.map .rejected)) := by
  have hrejected : Manifest.ofRequestFor t c.blueprint c.options rs c.seed c.correlationId.text =
      .error (r.map .rejected) := by
    rw [Manifest.ofRequestFor, hr]
    rfl
  rw [execute_eq, prepare_eq_error.2 (.inr ⟨t, ht, .inr ⟨rs, _, hrs, hrejected, rfl⟩⟩)]
  rfl

def requestFor (t : Catalog.Target) (chain : List PackageSet) : Resolve.Request where
  arch := .str t.arch
  releasever := .str t.release.releasever
  modulePlatformId := .str t.release.modulePlatformId
  chain := chain

theorem callsOf_eq (t : Catalog.Target) (m : Manifest) :
    callsOf t m = m.chains.map fun entry => (entry.1, requestFor t entry.2) := rfl

theorem keys_callsOf (t : Catalog.Target) (m : Manifest) :
    (callsOf t m).keys = m.chains.keys := by
  rw [callsOf_eq, Assoc.keys, Assoc.keys, List.map_map]
  rfl

theorem nodup_keys_callsOf (t : Catalog.Target) (m : Manifest) : (callsOf t m).keys.Nodup :=
  keys_callsOf t m ▸ m.nodup_keys_chains

/-! ## How a compose may end -/

/-- A compose may end in some way, where the calls of the resolver run side by side. -/
inductive Ends (e : Environment) (c : Command) : Except Error Composition → Prop
  | refused {err : Error} (hp : prepare e c = .error err) : Ends e c (.error err)
  | resolved {p : Prepared} {x : Except (Raised ResolutionError) Manifest.Resolution}
      (hp : prepare e c = .ok p) (hx : Resolves e.timeout e.resolver p.calls p.tag x) :
      Ends e c (p.conclude x)

/-- A compose may end in some way if and only if it does so for a list of looks at the calls. -/
theorem ends_iff_execute {x : Except Error Composition} :
    Ends e c x ↔ ∃ passes, execute e c passes = x := by
  simp only [execute_eq]
  constructor
  · intro h
    cases h with
    | refused hp =>
      rw [hp]
      exact ⟨[], rfl⟩
    | @resolved p x hp hx =>
      obtain ⟨passes, rfl⟩ := (resolves_iff (nodup_keys_callsOf p.target p.manifest)).1 hx
      rw [hp]
      exact ⟨passes, rfl⟩
  · rintro ⟨passes, rfl⟩
    cases hp : prepare e c with
    | error err => exact .refused hp
    | ok p =>
      exact .resolved hp ((resolves_iff (nodup_keys_callsOf p.target p.manifest)).2 ⟨passes, rfl⟩)

/-! ## Responses -/

/-- A response is made from the answers to the requests of all chains, and from nothing else. -/
structure Complete (e : Environment) (r : Composition) : Prop where
  nodup : r.resolution.keys.Nodup
  keys : r.resolution.keys.Perm r.manifest.chains.keys
  answered : ∀ pipeline chain, (pipeline, chain) ∈ r.manifest.chains → ∃ specs,
    e.resolver (requestFor r.target chain) = .ok specs ∧ r.resolution.get? pipeline = some specs
  written : r.manifest.serialize r.resolution = .ok r.document

theorem Prepared.serialize_of_answers {p : Prepared} {resolution : Manifest.Resolution}
    (h : Answers e.resolver p.calls resolution) :
    p.manifest.serialize resolution = .ok (p.manifest.render resolution) := by
  refine Manifest.serialize_of_answered fun name hname => ?_
  rw [Assoc.contains_iff]
  have hcall : name ∈ p.calls.keys := keys_callsOf p.target p.manifest ▸ hname
  exact h.keys.symm.subset hcall

/-- The response that is made from packages. -/
def Prepared.composition (p : Prepared) (resolution : Manifest.Resolution) : Composition :=
  { p with resolution, document := p.manifest.render resolution }

theorem Prepared.conclude_of_answers {p : Prepared} {resolution : Manifest.Resolution}
    (h : Answers e.resolver p.calls resolution) :
    p.conclude (.ok resolution) = .ok (p.composition resolution) := by
  simp only [conclude, Except.mapError, Outcome.ok_bind, p.serialize_of_answers h]
  rfl

theorem Prepared.complete_of_answers {p : Prepared} {resolution : Manifest.Resolution}
    (h : Answers e.resolver p.calls resolution) : Complete e (p.composition resolution) where
  nodup := h.keys.nodup_iff.2 (nodup_keys_callsOf p.target p.manifest)
  keys := keys_callsOf p.target p.manifest ▸ h.keys
  answered pipeline chain hchain :=
    h.answered (pipeline, requestFor p.target chain) (List.mem_map.2 ⟨_, hchain, rfl⟩)
  written := p.serialize_of_answers h

/-- What a compose may end with: an error from before the packages, one of the packages, or a
response with all of them. -/
theorem ends_cases {x : Except Error Composition} (h : Ends e c x) :
    (∃ err, prepare e c = .error err ∧ x = .error err) ∨
      ∃ p, prepare e c = .ok p ∧
        ((∃ err passes, resolve e.timeout e.resolver p.calls p.tag passes = .error err ∧
          x = .error (.resolution err)) ∨
        ∃ resolution, Answers e.resolver p.calls resolution ∧
          x = .ok (p.composition resolution)) := by
  obtain ⟨passes, rfl⟩ := ends_iff_execute.1 h
  rw [execute_eq]
  cases hp : prepare e c with
  | error err => exact .inl ⟨err, rfl, rfl⟩
  | ok p =>
    refine .inr ⟨p, rfl, ?_⟩
    rw [Outcome.ok_bind]
    cases hresolve : resolve e.timeout e.resolver p.calls p.tag passes with
    | error err => exact .inl ⟨err, passes, hresolve, rfl⟩
    | ok resolution =>
      have hanswers := answers_of_resolve (nodup_keys_callsOf p.target p.manifest) hresolve
      exact .inr ⟨resolution, hanswers, p.conclude_of_answers hanswers⟩

theorem exists_answers_of_ends {r : Composition} (h : Ends e c (.ok r)) :
    ∃ p resolution, prepare e c = .ok p ∧ Answers e.resolver p.calls resolution ∧
      r = p.composition resolution := by
  rcases ends_cases h with ⟨err, -, heq⟩ | ⟨p, hp, ⟨err, _, -, heq⟩ | ⟨resolution, hanswers, heq⟩⟩
  · cases heq
  · cases heq
  · exact ⟨p, resolution, hp, hanswers, Except.ok.inj heq⟩

/-- Where no call fails, a response may be made. -/
theorem exists_ends_ok {p : Prepared} (hp : prepare e c = .ok p)
    (ht : e.timeout.seconds.toDouble?.isSome = true)
    (h : ∀ q ∈ p.calls, Outcome.Succeeds (e.resolver q.2)) : ∃ r, Ends e c (.ok r) := by
  obtain ⟨resolution, hresolve⟩ := succeeds_resolve p.tag ht h
  have hanswers := answers_of_resolve (nodup_keys_callsOf p.target p.manifest) hresolve
  refine ⟨p.composition resolution, ends_iff_execute.2 ⟨[], ?_⟩⟩
  rw [execute_eq, hp, Outcome.ok_bind, hresolve, p.conclude_of_answers hanswers]

/-- Whatever the order in which calls finish, a response is made from the answers to all of them and
is the same. None is made where a call fails, or where it is seen that the caller has cancelled or
that the timeout has passed. -/
theorem ends_independent (e : Environment) (c : Command) :
    (∀ x, Ends e c x ↔ ∃ passes, execute e c passes = x) ∧
    (∀ r, Ends e c (.ok r) → Complete e r) ∧
    (∀ r r', Ends e c (.ok r) → Ends e c (.ok r') → r.response c = r'.response c) ∧
    (∀ m, ¬ Ends e c (.error (.missingSpecs m))) ∧
    ∀ p, prepare e c = .ok p → ∀ s s' x,
      Steps e.timeout e.resolver p.calls (.start p.calls p.tag) s →
      Failed p.calls s ∨ Hopeless e.timeout s → Steps e.timeout e.resolver p.calls s s' →
      s'.phase = .ended x → ∃ err, p.conclude x = .error err := by
  refine ⟨fun x => ends_iff_execute, fun r h => ?_, fun r r' h h' => ?_, fun m h => ?_, ?_⟩
  · obtain ⟨p, resolution, -, hanswers, rfl⟩ := exists_answers_of_ends h
    exact p.complete_of_answers hanswers
  · obtain ⟨p, resolution, hp, hanswers, rfl⟩ := exists_answers_of_ends h
    obtain ⟨p', resolution', hp', hanswers', rfl⟩ := exists_answers_of_ends h'
    obtain rfl := Except.ok.inj (hp.symm.trans hp')
    have hdocument : p.manifest.render resolution = p.manifest.render resolution' :=
      Manifest.render_congr (fun _ _ => hanswers.get?_eq hanswers' _) _
    simp only [Composition.response, Prepared.composition, hdocument]
  · rcases ends_cases h with ⟨err, herr, heq⟩ | ⟨p, -, ⟨err, _, -, heq⟩ | ⟨resolution, -, heq⟩⟩
    · obtain rfl := Except.error.inj heq
      rcases prepare_eq_error.1 herr with
        ⟨l, -, hl⟩ | ⟨t, -, ⟨f, -, hf⟩ | ⟨repositories, q, -, -, hq⟩⟩ <;> contradiction
    · cases heq
    · cases heq
  · intro p _ s s' x hs hbad h hx
    have herror : ∃ e, x = .error e := by
      rcases hbad with hfailed | hopeless
      · exact exists_error_of_failed (nodup_keys_callsOf p.target p.manifest) hs hfailed h hx
      · exact exists_error_of_hopeless hopeless h hx
    obtain ⟨err, rfl⟩ := herror
    exact ⟨.resolution err, rfl⟩

/-- The catalog of Fedora, where nothing is configured and no request has any packages. -/
def Environment.bare : Environment where
  registry := Catalog.Fedora.registry
  configured _ _ := .ok []
  resolver _ := .ok []

theorem length_sampleTag : "corr-1".length ≤ 128 := by decide

theorem isCorrelationText_sampleTag : isCorrelationText "corr-1" = true := by decide

/-- A command for a disk image that is made from a commit. -/
def Command.iotRawImage : Command where
  correlationId := ⟨"corr-1", length_sampleTag, isCorrelationText_sampleTag⟩
  distribution := "fedora-40"
  architecture := "aarch64"
  imageType := "iot-raw-image"
  options := { ostree := some { url := "https://example.com/repo" } }
  seed := 7

theorem ends_independent_iotRawImage :
    ∃ r, Ends .bare .iotRawImage (.ok r) ∧ Complete .bare r := by
  obtain ⟨t, m, ht, -, hm⟩ := Manifest.ofRequest_iotRawImage
  have hp : prepare .bare .iotRawImage = .ok ⟨t, m, [], "corr-1"⟩ :=
    prepare_eq_ok.2 ⟨rfl, [], ht, rfl, hm⟩
  obtain ⟨r, hr⟩ := exists_ends_ok hp (by decide) fun _ _ => Outcome.succeeds_ok []
  exact ⟨r, hr, (ends_independent .bare .iotRawImage).2.1 r hr⟩

end Imagewright.Compose
