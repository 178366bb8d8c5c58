import Imagewright.Proofs.Compose.Interleaving

/-!
# Schedules

A list of looks at the calls says which calls finish when. Each list describes a run of the system
in which the calls run side by side, and for each run there is a list that ends in the same way.

## Main definitions

* `Compose.Matches`: the progress of a list of looks and a state of the system are the same.
* `Compose.Gives`: a list of looks ends in some way, from a point of the collector on.
* `Compose.Reaches`: the system goes on to match a progress, or to end with an error.
* `Compose.Failed`: a call has failed.

## Main statements

* `Compose.gives_of_step`, `Compose.gives_of_steps`: the looks that describe a run, step by step.
* `Compose.reaches_finishAll`, `Compose.endsIn_run`: the run that a list of looks describes.
* `Compose.resolves_iff`: resolving may end in some way if and only if it does so for a list of
  looks at the calls.
* `Compose.answers_of_steps`, `Compose.exists_error_of_failed`: a good end has all answers.
-/
namespace Imagewright.Compose

variable {t : Timeout} {resolver : Resolve.Request → Resolve.Outcome} {calls : Calls}

/-- The progress that a list of looks has made and a state of the system are the same. -/
structure Matches (P : Progress) (s : State) : Prop where
  results : P.results = s.results
  pending : P.pending.Perm ((s.phase.taken ++ s.pending).map Future.call)
  nodup : P.pending.keys.Nodup
  tag : P.tag = s.tag

theorem matches_start (hc : calls.keys.Nodup) (tag : String) :
    Matches { pending := calls, tag } (.start calls tag) where
  results := rfl
  pending := by
    change List.Perm calls ((futuresOf calls).map Future.call)
    rw [map_call_futuresOf]
  nodup := hc
  tag := rfl

theorem Matches.get?_pending {P : Progress} {s : State} (h : Matches P s) {f : Future}
    (hf : f ∈ s.phase.taken ++ s.pending) : P.pending.get? f.pipeline = some f.request :=
  (Assoc.get?_eq_some_iff h.nodup).2 (h.pending.symm.subset (List.mem_map_of_mem hf))

theorem Matches.pending_eq_nil_iff {P : Progress} {s : State} (h : Matches P s)
    (hp : s.phase.taken = []) : P.pending = [] ↔ s.pending = [] := by
  have hperm := h.pending
  rw [hp, List.nil_append] at hperm
  rw [← List.length_eq_zero_iff, hperm.length_eq, List.length_map, List.length_eq_zero_iff]

/-- A call whose answer is taken is no longer among the pending ones. -/
theorem Matches.collect {P : Progress} {s : State} (h : Matches P s) {f : Future}
    {rest : List Future} (hp : s.phase = .collecting (f :: rest)) (specs : List PackageSpec) :
    Matches
      { P with
        pending := P.pending.filter (·.1 != f.pipeline), results := P.results.set f.pipeline specs }
      { s with results := s.results.set f.pipeline specs, phase := .collecting rest } := by
  have hperm := h.pending
  rw [hp] at hperm
  have hkeysPerm : P.pending.keys.Perm
      (f.pipeline :: Assoc.keys ((rest ++ s.pending).map Future.call)) := hperm.map Prod.fst
  have hkeys := hkeysPerm.nodup_iff.1 h.nodup
  have hfresh : ∀ e ∈ (rest ++ s.pending).map Future.call, (e.1 != f.pipeline) = true := by
    intro e he
    have hk : e.1 ∈ Assoc.keys ((rest ++ s.pending).map Future.call) :=
      List.mem_map_of_mem (f := (·.1)) he
    rw [bne_iff_ne]
    rintro heq
    exact (List.nodup_cons.1 hkeys).1 (heq ▸ hk)
  refine ⟨by rw [h.results], ?_, h.nodup.sublist (List.filter_sublist.map _), h.tag⟩
  have hfilter := hperm.filter (·.1 != f.pipeline)
  rw [Phase.taken, List.cons_append, List.map_cons,
    List.filter_cons_of_neg (by simp [Future.call]), List.filter_eq_self.2 hfresh] at hfilter
  exact hfilter

/-! ## From the system to the looks -/

/-- A list of looks at the calls ends in the same way, from a point of the collector on. -/
def Gives (t : Timeout) (resolver : Resolve.Request → Resolve.Outcome) (P : Progress) :
    Phase → Except (Raised ResolutionError) Manifest.Resolution → Prop
  | .looking, x | .timing, x => ∃ passes, P.run t resolver passes = x
  | .waiting, x =>
    ∃ names passes, (P.finishAll resolver names >>= fun Q => Q.run t resolver passes) = x
  | .collecting done, x =>
    ∃ passes, (P.finishAll resolver (done.map (·.pipeline)) >>= fun Q =>
      Q.run t resolver passes) = x
  | .ended y, x => y = x

theorem phase_of_steps {s s' : State} {x : Except (Raised ResolutionError) Manifest.Resolution}
    (h : Steps t resolver calls s s') (hx : s.phase = .ended x) : s'.phase = .ended x := by
  refine keeps_of_step (P := fun s => s.phase = .ended x) (fun s s' hs hstep => ?_) hx h
  cases hstep <;> simp_all

/-- A step of the collector puts a look before those that are left, or a call before those that
finish at the next look. -/
theorem gives_of_step {s s' : State} {x : Except (Raised ResolutionError) Manifest.Resolution}
    (h : Step t resolver calls s s') (hs : Sound resolver calls s)
    (hend : ∀ y, s'.phase = .ended y → y = x)
    (hgives : ∀ Q, Matches Q s' → Gives t resolver Q s'.phase x) (P : Progress)
    (hm : Matches P s) : Gives t resolver P s.phase x := by
  have hpending := hm.pending
  cases h with
  | finish | advance | cancel => exact hgives P ⟨hm.results, hm.pending, hm.nodup, hm.tag⟩
  | done hp hnil =>
    rw [hp] at hpending ⊢
    have hempty : P.pending = [] := (hm.pending_eq_nil_iff (by rw [hp]; rfl)).2 hnil
    refine ⟨[], ?_⟩
    rw [← hend _ rfl, ← hm.results, Progress.run, hempty]
    rfl
  | giveUp hp hsome hc =>
    rw [hp] at hpending ⊢
    have hempty : P.pending ≠ [] := mt (hm.pending_eq_nil_iff (by rw [hp]; rfl)).1 hsome
    refine ⟨[{ cancelled := true, elapsed := Double.zero }], ?_⟩
    rw [← hend _ rfl, ← hm.tag, Progress.run]
    simp [hempty]
  | goOn hp =>
    rw [hp] at hpending ⊢
    exact hgives P ⟨hm.results, hpending, hm.nodup, hm.tag⟩
  | timeOut hp ho =>
    rw [hp] at hpending ⊢
    have hempty : P.pending ≠ [] := mt (hm.pending_eq_nil_iff (by rw [hp]; rfl)).1 (hs.busy hp)
    refine ⟨[{ elapsed := s.clock }], ?_⟩
    rw [← hend _ rfl, ← hm.tag, Progress.run]
    simp [hempty, ho]
  | wait hp ho =>
    rw [hp] at hpending ⊢
    obtain ⟨names, passes, hrun⟩ := hgives P ⟨hm.results, hpending, hm.nodup, hm.tag⟩
    have hempty : P.pending ≠ [] := mt (hm.pending_eq_nil_iff (by rw [hp]; rfl)).1 (hs.busy hp)
    refine ⟨{ elapsed := s.clock, finished := names } :: passes, ?_⟩
    rw [← hrun, Progress.run]
    simp [hempty, ho]
  | @wake done rest hp hperm =>
    rw [hp] at hpending ⊢
    obtain ⟨passes, hrun⟩ :=
      hgives P ⟨hm.results, hpending.trans (hperm.map Future.call), hm.nodup, hm.tag⟩
    exact ⟨_, passes, hrun⟩
  | @collect f rest specs hp ha =>
    have hf : f ∈ s.phase.taken ++ s.pending := by rw [hp]; exact List.mem_cons_self
    have hanswer := hs.truthful f (hs.known f hf) _ ha
    obtain ⟨passes, hrun⟩ := hgives _ (hm.collect hp specs)
    rw [hp]
    refine ⟨passes, ?_⟩
    rw [List.map_cons, Progress.finishAll, List.foldlM_cons,
      Progress.finish_of_ok (hm.get?_pending hf) hanswer.symm]
    exact hrun
  | @fail f rest failure hp ha =>
    have hf : f ∈ s.phase.taken ++ s.pending := by rw [hp]; exact List.mem_cons_self
    have hanswer := hs.truthful f (hs.known f hf) _ ha
    rw [hp]
    refine ⟨[], ?_⟩
    rw [List.map_cons, Progress.finishAll, List.foldlM_cons,
      Progress.finish_of_error (hm.get?_pending hf) hanswer.symm, hm.tag]
    exact hend _ rfl
  | again hp =>
    rw [hp] at hpending ⊢
    obtain ⟨passes, hrun⟩ := hgives P ⟨hm.results, hpending, hm.nodup, hm.tag⟩
    exact ⟨passes, hrun⟩

/-- A run of the system that ends gives looks at the calls that end in the same way. -/
theorem gives_of_steps {s s' : State} {x : Except (Raised ResolutionError) Manifest.Resolution}
    (h : Steps t resolver calls s s') (hx : s'.phase = .ended x) (hs : Sound resolver calls s)
    (P : Progress) (hm : Matches P s) : Gives t resolver P s.phase x := by
  -- From the end backwards: what remains of the run gives the looks that are left.
  induction h using Relation.ReflTransGen.head_induction_on generalizing P with
  | refl =>
    rw [hx]
    exact rfl
  | @head s s₁ hstep hsteps ih =>
    have hend : ∀ y, s₁.phase = .ended y → y = x := fun y hy =>
      Phase.ended.inj ((phase_of_steps hsteps hy).symm.trans hx)
    exact gives_of_step hstep hs hend (ih (sound_step hs hstep)) P hm

/-! ## From the looks to the system -/

/-- The system may go on to end in some way. -/
def EndsIn (t : Timeout) (resolver : Resolve.Request → Resolve.Outcome) (calls : Calls) (s : State)
    (x : Except (Raised ResolutionError) Manifest.Resolution) : Prop :=
  ∃ s', Steps t resolver calls s s' ∧ s'.phase = .ended x

/-- The collector is about to look, nobody has cancelled and no time has gone by. -/
structure Ready (resolver : Resolve.Request → Resolve.Outcome) (calls : Calls) (P : Progress)
    (s : State) : Prop where
  sound : Sound resolver calls s
  same : Matches P s
  looking : s.phase = .looking
  going : s.cancelled = false
  early : s.clock = Double.zero

/-- The system may go on to match a progress, or to end with an error. -/
def Reaches (t : Timeout) (resolver : Resolve.Request → Resolve.Outcome) (calls : Calls)
    (s : State) : Except (Raised ResolutionError) Progress → Prop
  | .ok P => ∃ s', Steps t resolver calls s s' ∧ Ready resolver calls P s'
  | .error e => EndsIn t resolver calls s (.error e)

theorem EndsIn.of_steps {s s₁ : State} {x : Except (Raised ResolutionError) Manifest.Resolution}
    (hsteps : Steps t resolver calls s s₁) (h : EndsIn t resolver calls s₁ x) :
    EndsIn t resolver calls s x := by
  obtain ⟨s', hs, hx⟩ := h
  exact ⟨s', hsteps.trans hs, hx⟩

theorem Reaches.of_steps {s s₁ : State} (hsteps : Steps t resolver calls s s₁) :
    ∀ {x : Except (Raised ResolutionError) Progress}, Reaches t resolver calls s₁ x →
      Reaches t resolver calls s x
  | .ok _, ⟨s', hs, hready⟩ => ⟨s', hsteps.trans hs, hready⟩
  | .error _, h => EndsIn.of_steps hsteps h

theorem Reaches.bind {s : State} {x : Except (Raised ResolutionError) Progress}
    {k : Progress → Except (Raised ResolutionError) Progress} (h : Reaches t resolver calls s x)
    (hk : ∀ Q s', Ready resolver calls Q s' → Reaches t resolver calls s' (k Q)) :
    Reaches t resolver calls s (x >>= k) := by
  cases x with
  | error e => exact h
  | ok Q =>
    obtain ⟨s', hsteps, hready⟩ := h
    exact .of_steps hsteps (hk Q s' hready)

theorem EndsIn.bind {s : State} {x : Except (Raised ResolutionError) Progress}
    {k : Progress → Except (Raised ResolutionError) Manifest.Resolution}
    (h : Reaches t resolver calls s x)
    (hk : ∀ Q s', x = .ok Q → Ready resolver calls Q s' → EndsIn t resolver calls s' (k Q)) :
    EndsIn t resolver calls s (x >>= k) := by
  cases x with
  | error e => exact h
  | ok Q =>
    obtain ⟨s', hsteps, hready⟩ := h
    exact .of_steps hsteps (hk Q s' rfl hready)

/-- The answer to a call may come at any time. -/
theorem exists_answers {s : State} (hs : Sound resolver calls s) {f : Future}
    (hf : f ∈ futuresOf calls) : ∃ answers, Steps t resolver calls s { s with answers } ∧
      answers.get? f.number = some (resolver f.request) := by
  cases ha : s.answers.get? f.number with
  | none => exact ⟨_, .single (.finish hf ha), Assoc.get?_set_self _ _ _⟩
  | some o => exact ⟨s.answers, .refl, by rw [ha, hs.truthful f hf o ha]⟩

/-- The collector may wait and be woken for one call alone, whose answer has come by then. -/
theorem exists_woken {P : Progress} {s : State} (h : Ready resolver calls P s) {f : Future}
    (hf : f ∈ s.pending) : ∃ answers pending,
      let woken : State := { s with answers, pending, phase := .collecting [f] }
      Steps t resolver calls s woken ∧ answers.get? f.number = some (resolver f.request) ∧
        Matches P woken := by
  obtain ⟨before, after, hsplit⟩ := List.append_of_mem hf
  have hperm : s.pending.Perm ([f] ++ (before ++ after)) := by
    rw [hsplit]
    exact List.perm_middle
  have hmade : f ∈ futuresOf calls := h.sound.known f (List.mem_append_right _ hf)
  have hwait : Steps t resolver calls s { s with phase := .waiting } := by
    have hsome : s.pending ≠ [] := List.ne_nil_of_mem hf
    have hgoOn : Step t resolver calls s { s with phase := .timing } :=
      .goOn h.looking hsome h.going
    exact .head hgoOn (.single (.wait rfl (by rw [h.early]; exact Timeout.not_isOver_zero t)))
  obtain ⟨answers, hanswer, hget⟩ := exists_answers (t := t) (sound_steps h.sound hwait) hmade
  refine ⟨answers, before ++ after, hwait.trans (hanswer.tail (.wake rfl hperm fun g hg => ?_)),
    hget, h.same.results, ?_, h.same.nodup, h.same.tag⟩
  · rw [List.mem_singleton.1 hg, Assoc.contains, hget]
    rfl
  · have hpending := h.same.pending
    rw [h.looking] at hpending
    exact hpending.trans (hperm.map _)

theorem reaches_finish {P : Progress} {s : State} (h : Ready resolver calls P s) (name : String) :
    Reaches t resolver calls s (P.finish resolver name) := by
  cases hname : P.pending.get? name with
  | none =>
    rw [Progress.finish, hname]
    exact ⟨s, .refl, h⟩
  | some q =>
    -- The call is one of those that the collector waits for.
    have hpending := h.same.pending
    rw [h.looking] at hpending
    obtain ⟨f, hf, hcall⟩ := List.mem_map.1 (hpending.subset (Assoc.mem_of_get? hname))
    obtain ⟨rfl, rfl⟩ := Prod.mk.inj hcall
    obtain ⟨answers, pending, hwoken, hget, hmatches⟩ := exists_woken (t := t) h hf
    cases hresult : resolver f.request with
    | error e =>
      rw [hresult] at hget
      rw [Progress.finish_of_error hname hresult, h.same.tag]
      exact ⟨_, hwoken.tail (.fail rfl hget), rfl⟩
    | ok specs =>
      rw [hresult] at hget
      rw [Progress.finish_of_ok hname hresult]
      have hcollected := (hwoken.tail (.collect rfl hget)).tail (.again rfl)
      have hsame := hmatches.collect rfl specs
      exact ⟨_, hcollected, sound_steps h.sound hcollected,
        ⟨hsame.results, hsame.pending, hsame.nodup, hsame.tag⟩, rfl, h.going, h.early⟩

theorem reaches_finishAll {P : Progress} {s : State} (h : Ready resolver calls P s)
    (names : List String) : Reaches t resolver calls s (P.finishAll resolver names) := by
  induction names generalizing P s with
  | nil => exact ⟨s, .refl, h⟩
  | cons name rest ih =>
    rw [Progress.finishAll, List.foldlM_cons]
    exact (reaches_finish h name).bind fun Q s' hready => ih hready

theorem endsIn_of_pending_eq_nil {P : Progress} {s : State} (h : Ready resolver calls P s)
    (hempty : P.pending = []) : EndsIn t resolver calls s (.ok P.results) := by
  have hnil : s.pending = [] := (h.same.pending_eq_nil_iff (by rw [h.looking]; rfl)).1 hempty
  rw [h.same.results]
  exact ⟨_, .single (.done h.looking hnil), rfl⟩

theorem endsIn_run {P : Progress} {s : State} (h : Ready resolver calls P s)
    (passes : List Pass) : EndsIn t resolver calls s (P.run t resolver passes) := by
  induction passes generalizing P s with
  | nil =>
    rw [Progress.run]
    exact EndsIn.bind (reaches_finishAll h _) fun Q s' hQ hready =>
      endsIn_of_pending_eq_nil hready (Progress.pending_finishAll_keys hQ)
  | cons p rest ih =>
    rw [Progress.run]
    have hsome : P.pending.isEmpty ≠ true → s.pending ≠ [] := fun hempty hnil =>
      hempty (List.isEmpty_iff.2 ((h.same.pending_eq_nil_iff (by rw [h.looking]; rfl)).2 hnil))
    split_ifs with hempty hcancelled hover
    · exact endsIn_of_pending_eq_nil h (List.isEmpty_iff.1 hempty)
    · have hcancel : Step t resolver calls s { s with cancelled := true } := .cancel
      rw [h.same.tag]
      exact ⟨_, .head hcancel (.single (.giveUp h.looking (hsome hempty) rfl)), rfl⟩
    · have hclock : s.clock ≤ p.elapsed := h.early ▸ Timeout.zero_le_of_isOver hover
      have hadvance : Step t resolver calls s { s with clock := p.elapsed } := .advance hclock
      have hgoOn : Step t resolver calls { s with clock := p.elapsed }
          { s with clock := p.elapsed, phase := .timing } := .goOn h.looking (hsome hempty) h.going
      rw [h.same.tag]
      exact ⟨_, .head hadvance (.head hgoOn (.single (.timeOut rfl hover))), rfl⟩
    · exact EndsIn.bind (reaches_finishAll h _) fun Q s' _ hready => ih hready

/-! ## Both ways -/

/-- Resolving may end in some way if and only if it does so for a list of looks at the calls. -/
theorem resolves_iff (hc : calls.keys.Nodup) {tag : String}
    {x : Except (Raised ResolutionError) Manifest.Resolution} :
    Resolves t resolver calls tag x ↔ ∃ passes, resolve t resolver calls tag passes = x := by
  unfold Resolves resolve
  split_ifs with hdeadline
  · simp [eq_comm]
  · constructor
    · rintro ⟨s, hsteps, hx⟩
      exact gives_of_steps hsteps hx sound_start _ (matches_start hc tag)
    · rintro ⟨passes, rfl⟩
      exact endsIn_run ⟨sound_start, matches_start hc tag, rfl, rfl, rfl⟩ passes

/-! ## Good ends -/

theorem answers_of_steps (hc : calls.keys.Nodup) {tag : String} {s : State}
    (h : Steps t resolver calls (.start calls tag) s) {r : Manifest.Resolution}
    (hr : s.phase = .ended (.ok r)) : Answers resolver calls r := by
  obtain ⟨passes, hrun⟩ := gives_of_steps h hr sound_start _ (matches_start hc tag)
  exact Progress.answers_of_run hc hrun

/-- A call has failed. -/
def Failed (calls : Calls) (s : State) : Prop :=
  ∃ f ∈ futuresOf calls, ∃ x, s.answers.get? f.number = some (.error x)

theorem exists_error_of_failed (hc : calls.keys.Nodup) {tag : String} {s s' : State}
    (hs : Steps t resolver calls (.start calls tag) s) (hf : Failed calls s)
    (h : Steps t resolver calls s s') {x : Except (Raised ResolutionError) Manifest.Resolution}
    (hx : s'.phase = .ended x) : ∃ e, x = .error e := by
  cases x with
  | error e => exact ⟨e, rfl⟩
  | ok r =>
    -- A good end has an answer to every call, but this one was answered with a failure.
    obtain ⟨f, hf, failure, ha⟩ := hf
    have hfailure := (sound_steps sound_start hs).truthful f hf _ ha
    have hcall : f.call ∈ calls := by
      have hmem := List.mem_map_of_mem (f := Future.call) hf
      rwa [map_call_futuresOf] at hmem
    obtain ⟨specs, hspecs, -⟩ := (answers_of_steps hc (hs.trans h) hx).answered _ hcall
    cases hfailure.trans hspecs

end Imagewright.Compose
