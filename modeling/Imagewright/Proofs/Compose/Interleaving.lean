import Imagewright.Proofs.Compose.Progress
import Imagewright.Proofs.Number.Order
import Mathlib.Logic.Relation

/-!
# Calls that run side by side

The calls of the resolver as a system that takes one step after the other. Calls finish in any
order, time passes and the caller may cancel, all between any two steps of the collector, which
looks whether to go on, waits, and takes the answers of some calls that have finished.

## Main definitions

* `Compose.Future`, `Compose.State`: a call that was handed out; the calls and the collector.
* `Compose.Step`, `Compose.Steps`: what may happen next, and after some time.
* `Compose.Resolves`: how resolving may end.
* `Compose.Hopeless`: the caller has cancelled or the timeout has passed, and it is seen in time.

## Main statements

* `Compose.keeps_of_step`: what no step breaks holds after any time.
* `Compose.sound_steps`: answers are matched to the calls that they answer.
* `Compose.exists_error_of_hopeless`: what is hopeless does not end well.
-/
namespace Imagewright.Compose

/-! ## The system -/

/-- A call that was handed out, with the pipeline that it is for. -/
structure Future where
  number : Nat
  pipeline : String
  request : Resolve.Request

def Future.call (f : Future) : String × Resolve.Request := (f.pipeline, f.request)

/-- The calls, handed out one after the other. -/
def futuresOf (calls : Calls) : List Future := calls.zipIdx.map fun e => ⟨e.2, e.1.1, e.1.2⟩

/-- Where the collector is. -/
inductive Phase where
  /-- It looks whether calls are pending, and whether the caller has cancelled. -/
  | looking
  /-- It looks at the clock. -/
  | timing
  /-- It waits for calls to finish. -/
  | waiting
  /-- It takes the answers of calls that have finished. -/
  | collecting (done : List Future)
  | ended (x : Except (Raised ResolutionError) Manifest.Resolution)

/-- The calls that the collector was told have finished, and whose answers it has not taken. -/
def Phase.taken : Phase → List Future
  | .collecting done => done
  | _ => []

/-- The calls and their collector. -/
structure State where
  /-- The seconds since the calls were made. -/
  clock : Double := Double.zero
  cancelled : Bool := false
  /-- What was answered to the calls that have finished. -/
  answers : Assoc Nat Resolve.Outcome := []
  /-- The calls that the collector waits for. -/
  pending : List Future
  results : Manifest.Resolution := []
  phase : Phase := .looking
  /-- The tag of the command that the calls are made for. -/
  tag : String := ""

/-- All calls have just been made for the command with a tag. -/
def State.start (calls : Calls) (tag : String) : State := { pending := futuresOf calls, tag }

variable (t : Timeout) (resolver : Resolve.Request → Resolve.Outcome) (calls : Calls)

/-- What may happen next. The first three are not up to the collector. -/
inductive Step : State → State → Prop
  | finish {s : State} {f : Future} (hf : f ∈ futuresOf calls)
      (hn : s.answers.get? f.number = none) :
      Step s { s with answers := s.answers.set f.number (resolver f.request) }
  | advance {s : State} {clock : Double} (h : s.clock ≤ clock) : Step s { s with clock }
  | cancel {s : State} : Step s { s with cancelled := true }
  | done {s : State} (hp : s.phase = .looking) (hs : s.pending = []) :
      Step s { s with phase := .ended (.ok s.results) }
  | giveUp {s : State} (hp : s.phase = .looking) (hs : s.pending ≠ []) (hc : s.cancelled = true) :
      Step s { s with phase := .ended (.error (.tagged .cancelled s.tag)) }
  | goOn {s : State} (hp : s.phase = .looking) (hs : s.pending ≠ []) (hc : s.cancelled = false) :
      Step s { s with phase := .timing }
  | timeOut {s : State} (hp : s.phase = .timing) (ho : t.isOver s.clock = true) :
      Step s { s with phase := .ended (.error (.tagged (.timedOut t) s.tag)) }
  | wait {s : State} (hp : s.phase = .timing) (ho : t.isOver s.clock = false) :
      Step s { s with phase := .waiting }
  /-- The wait ends with some of the calls that have finished, in any order, or with none. -/
  | wake {s : State} {done rest : List Future} (hp : s.phase = .waiting)
      (hs : s.pending.Perm (done ++ rest)) (hd : ∀ f ∈ done, s.answers.contains f.number = true) :
      Step s { s with pending := rest, phase := .collecting done }
  | collect {s : State} {f : Future} {rest : List Future} {specs : List PackageSpec}
      (hp : s.phase = .collecting (f :: rest))
      (ha : s.answers.get? f.number = some (.ok specs)) :
      Step s { s with results := s.results.set f.pipeline specs, phase := .collecting rest }
  | fail {s : State} {f : Future} {rest : List Future} {x : Resolve.Failure}
      (hp : s.phase = .collecting (f :: rest)) (ha : s.answers.get? f.number = some (.error x)) :
      Step s { s with phase := .ended (.error (raiseFailure s.tag f.pipeline x)) }
  | again {s : State} (hp : s.phase = .collecting []) : Step s { s with phase := .looking }

/-- What may have happened after some time. -/
abbrev Steps : State → State → Prop := Relation.ReflTransGen (Step t resolver calls)

/-- Resolving may end in some way. Without a deadline no call is made. -/
def Resolves (tag : String) (x : Except (Raised ResolutionError) Manifest.Resolution) : Prop :=
  if !calls.isEmpty && t.seconds.toDouble?.isNone then x = .error (.plain .noDeadline)
  else ∃ s, Steps t resolver calls (.start calls tag) s ∧ s.phase = .ended x

variable {t resolver calls}

/-! ## What every state keeps -/

/-- What no step breaks holds after any time. -/
theorem keeps_of_step {P : State → Prop} (hstep : ∀ s s', P s → Step t resolver calls s s' → P s')
    {s s' : State} (hs : P s) (h : Steps t resolver calls s s') : P s' := by
  induction h with
  | refl => exact hs
  | tail _ h ih => exact hstep _ _ ih h

theorem map_call_futuresOf : (futuresOf calls).map Future.call = calls := by
  rw [futuresOf, List.map_map]
  exact List.zipIdx_map_fst 0 calls

theorem eq_of_number_eq {f g : Future} (hf : f ∈ futuresOf calls) (hg : g ∈ futuresOf calls)
    (h : f.number = g.number) : f = g := by
  obtain ⟨⟨e, i⟩, he, rfl⟩ := List.mem_map.1 hf
  obtain ⟨⟨e', i'⟩, he', rfl⟩ := List.mem_map.1 hg
  obtain rfl : i = i' := h
  rw [List.mk_mem_zipIdx_iff_getElem?] at he he'
  obtain rfl := Option.some.inj (he.symm.trans he')
  rfl

/-- The collector deals with calls that were made, whose answers are those of the resolver. -/
structure Sound (resolver : Resolve.Request → Resolve.Outcome) (calls : Calls) (s : State) :
    Prop where
  known : ∀ f ∈ s.phase.taken ++ s.pending, f ∈ futuresOf calls
  truthful : ∀ f ∈ futuresOf calls, ∀ o, s.answers.get? f.number = some o → o = resolver f.request
  busy : s.phase = .timing → s.pending ≠ []

theorem sound_start {tag : String} : Sound resolver calls (.start calls tag) where
  known _ hf := hf
  truthful _ _ _ h := by cases h
  busy h := by cases h

theorem sound_step {s s' : State} (hs : Sound resolver calls s)
    (h : Step t resolver calls s s') : Sound resolver calls s' := by
  obtain ⟨known, truthful, busy⟩ := hs
  cases h with
  | @finish f hf hn =>
    -- An answer is filed under the number of its call, and no other call has that number.
    refine ⟨known, fun g hg o ho => ?_, busy⟩
    by_cases hfg : f.number = g.number
    · obtain rfl := eq_of_number_eq hf hg hfg
      rw [Assoc.get?_set_self] at ho
      exact (Option.some.inj ho).symm
    · rw [Assoc.get?_set_ne _ _ hfg] at ho
      exact truthful g hg o ho
  | advance | cancel => exact ⟨known, truthful, busy⟩
  | goOn hp hpending hc =>
    rw [hp] at known
    exact ⟨known, truthful, fun _ => hpending⟩
  | done hp | giveUp hp | timeOut hp | wait hp | again hp =>
    rw [hp] at known
    exact ⟨known, truthful, by simp⟩
  | wake hp hperm =>
    rw [hp] at known
    exact ⟨fun f hf => known f (hperm.symm.subset hf), truthful, by simp⟩
  | collect hp =>
    rw [hp] at known
    exact ⟨fun f hf => known f (List.mem_cons_of_mem _ hf), truthful, by simp⟩
  | fail hp =>
    rw [hp] at known
    exact ⟨fun f hf => known f (List.mem_append_right _ hf), truthful, by simp⟩

theorem sound_steps {s s' : State} (hs : Sound resolver calls s)
    (h : Steps t resolver calls s s') : Sound resolver calls s' :=
  keeps_of_step (fun _ _ => sound_step) hs h

/-! ## Bad ends -/

/-- The collector has seen, or sees next, that calls are pending while the caller has cancelled or
the timeout has passed. -/
inductive Hopeless (t : Timeout) (s : State) : Prop
  | cancelled (hp : s.phase = .looking) (hs : s.pending ≠ []) (hc : s.cancelled = true)
  | late (hp : s.phase = .looking ∨ s.phase = .timing) (hs : s.pending ≠ [])
      (ho : t.isOver s.clock = true)
  | ended {e : Raised ResolutionError} (hp : s.phase = .ended (.error e))

theorem hopeless_step {s s' : State} (hs : Hopeless t s) (h : Step t resolver calls s s') :
    Hopeless t s' := by
  cases hs with
  | cancelled hp hpending hc =>
    cases h with
    | finish | advance => exact .cancelled hp hpending hc
    | cancel => exact .cancelled hp hpending rfl
    | giveUp => exact .ended rfl
    | _ => simp_all
  | late hp hpending ho =>
    cases h with
    | finish | cancel => exact .late hp hpending ho
    | advance hclock => exact .late hp hpending (Timeout.isOver_of_le ho hclock)
    | giveUp | timeOut => exact .ended rfl
    | goOn => exact .late (.inr rfl) hpending ho
    -- Every other step of the collector needs it to be elsewhere, or the timeout not to be over.
    | _ => simp_all
  | ended hp =>
    cases h with
    | finish | advance | cancel => exact .ended hp
    | _ => simp_all

theorem hopeless_steps {s s' : State} (hs : Hopeless t s) (h : Steps t resolver calls s s') :
    Hopeless t s' :=
  keeps_of_step (fun _ _ => hopeless_step) hs h

theorem exists_error_of_hopeless {s s' : State} (hs : Hopeless t s)
    (h : Steps t resolver calls s s') {x : Except (Raised ResolutionError) Manifest.Resolution}
    (hx : s'.phase = .ended x) : ∃ e, x = .error e := by
  cases hopeless_steps hs h with
  | cancelled hp | late hp => simp_all
  | @ended e hp => exact ⟨e, Phase.ended.inj (hx.symm.trans hp)⟩

end Imagewright.Compose
