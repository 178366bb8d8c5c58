import Imagewright.Proofs.Compose.Interleaving
import Imagewright.Proofs.Settings.Timeouts

/-!
# Deadlines

The timeout of loaded settings bounds how long resolving takes. The deadline is a rounded sum, and
it is still reached as soon as the timeout has gone by. From then on the collector takes a number of
steps that the calls it waits for bound, and does not wait again: where it looks while calls are
pending, it gives up. All this needs the timeout to be a number. One that is none is let through by
the checks, and then the collector may wait forever.

## Main definitions

* `Timeout.Kept`: the deadline is reached when the timeout has gone by, whatever the clock.
* `Compose.State.turnsLeft`, `Compose.Turns`: how many steps the collector takes, and has left.
* `Compose.Overdue`: the collector sees next that the timeout has passed, or has given up.
* `Compose.Bounded`: resolving comes to an end, with pending calls given up.

## Main statements

* `Timeout.kept_of_decimal`: deadlines are kept.
* `Compose.turnsLeft_step`, `Compose.turns_le`: the steps that are left get fewer.
* `Compose.exists_turn`: the collector is never stuck.
* `Compose.bounded_of_isOver`, `Compose.run_of_isOver`: what has taken too long ends.
* `Compose.bounds_of_load`: the timeout of loaded settings.
-/
namespace Imagewright

/-! ## Clocks -/

namespace Timeout

/-- The deadline is reached when the timeout has gone by, whatever the clock shows at the start. -/
structure Kept (t : Timeout) : Prop where
  deadline : ∀ start, ∃ d, t.deadline? start = some d
  /-- The deadline is a rounded sum, which is not after what the sum is not after. -/
  due : ∀ {start d now : Double} {a b : ℚ} {c : WithBot (WithTop ℚ)}, t.deadline? start = some d →
    start.Denotes a → t.seconds.exact.Denotes b → now.Fits → now.extended? = some c →
    (((a + b : ℚ) : WithTop ℚ) : WithBot (WithTop ℚ)) ≤ c → d.atMost now = true
  /-- By a clock that shows zero at the start, looking at the deadline is looking at the time that
  has gone by. -/
  zero : ∀ {d now : Double}, t.deadline? Double.zero = some d → d.atMost now = t.isOver now
  passes : ∀ {now : Double} {b : ℚ} {c : WithBot (WithTop ℚ)}, t.seconds.exact.Denotes b →
    now.extended? = some c → ((b : WithTop ℚ) : WithBot (WithTop ℚ)) ≤ c → t.isOver now = true
  /-- If the timeout is no finite number, no clock reaches the deadline. -/
  never : ∀ {start d now : Double} {a c : ℚ}, t.deadline? start = some d → start.Denotes a →
    now.Denotes c → (∀ b, ¬ t.seconds.exact.Denotes b) → d.atMost now = false

variable {t : Timeout} {x : Double}

theorem deadline?_of_decimal (ht : t.seconds = .decimal x) (start : Double) :
    t.deadline? start = some (start.add x) := by
  rw [deadline?, ht]
  rfl

theorem kept_of_decimal (ht : t.seconds = .decimal x) (hx : x.Fits) : t.Kept where
  deadline start := ⟨_, deadline?_of_decimal ht start⟩
  due hd hstart hb hnow hc h := by
    obtain rfl := Option.some.inj ((deadline?_of_decimal ht _).symm.trans hd)
    rw [ht] at hb
    exact Double.atMost_iff.2 (Double.add_le hnow hstart hb hc h)
  zero hd := by
    obtain rfl := Option.some.inj ((deadline?_of_decimal ht _).symm.trans hd)
    rw [Bool.eq_iff_iff, isOver_iff, Double.atMost_iff, Double.le_iff, Double.le_iff,
      Double.extended?_zero_add hx, ht]
    rfl
  passes hb hc h := isOver_iff.2 (Double.le_iff.2 ⟨_, _, hb, hc, h⟩)
  never hd hstart hnow hb := by
    obtain rfl := Option.some.inj ((deadline?_of_decimal ht _).symm.trans hd)
    obtain ⟨s, m, e, rfl, -⟩ := Double.eq_finite_of_denotes hstart
    obtain ⟨s', m', e', rfl, -⟩ := Double.eq_finite_of_denotes hnow
    have hpositive := t.not_nonPositive
    rw [ht] at hb hpositive
    cases x with
    | nan o => rfl
    | finite s m e => exact absurd (Double.denotes_finite s m e) (hb _)
    | infinite s =>
      cases s with
      | true => cases hpositive
      | false => rfl

end Timeout

/-! ## Steps of the collector -/

namespace Compose

variable {t : Timeout} {resolver : Resolve.Request → Resolve.Outcome} {calls : Calls}

/-- How many steps the collector has left at most, if it does not wait again. -/
def State.turnsLeft (s : State) : Nat :=
  match s.phase with
  | .ended _ => 0
  | .timing => 1
  | .looking => 2
  | .collecting done => done.length + 3
  | .waiting => s.pending.length + 4

theorem isOver_step {s s' : State} (ho : t.isOver s.clock = true)
    (h : Step t resolver calls s s') : t.isOver s'.clock = true := by
  cases h with
  | advance hclock => exact Timeout.isOver_of_le ho hclock
  | _ => exact ho

theorem isOver_steps {s s' : State} (ho : t.isOver s.clock = true)
    (h : Steps t resolver calls s s') : t.isOver s'.clock = true :=
  keeps_of_step (P := fun s => t.isOver s.clock = true) (fun _ _ => isOver_step) ho h

/-- When the timeout has passed, a step is not one of the collector or leaves it fewer. -/
theorem turnsLeft_step {s s' : State} (ho : t.isOver s.clock = true)
    (h : Step t resolver calls s s') :
    (s'.phase = s.phase ∧ s'.turnsLeft = s.turnsLeft) ∨
      (s'.phase ≠ s.phase ∧ s'.turnsLeft < s.turnsLeft) := by
  cases h with
  | finish | advance | cancel => exact .inl ⟨rfl, rfl⟩
  | wait hp hover => simp [ho] at hover
  | wake hp hperm =>
    have hlength := hperm.length_eq
    rw [List.length_append] at hlength
    simp only [State.turnsLeft, hp]
    grind
  | done hp | giveUp hp | goOn hp | timeOut hp | collect hp | fail hp | again hp =>
    simp [State.turnsLeft, hp]

/-- The number of steps that the collector takes from one state to another. -/
inductive Turns (t : Timeout) (resolver : Resolve.Request → Resolve.Outcome) (calls : Calls) :
    Nat → State → State → Prop
  | refl {s : State} : Turns t resolver calls 0 s s
  /-- A call finishes, time passes, or the caller cancels. -/
  | other {n : Nat} {s s₁ s₂ : State} (hs : Turns t resolver calls n s s₁)
      (h : Step t resolver calls s₁ s₂) (hp : s₂.phase = s₁.phase) : Turns t resolver calls n s s₂
  | own {n : Nat} {s s₁ s₂ : State} (hs : Turns t resolver calls n s s₁)
      (h : Step t resolver calls s₁ s₂) (hp : s₂.phase ≠ s₁.phase) :
      Turns t resolver calls (n + 1) s s₂

theorem steps_of_turns {n : Nat} {s s' : State} (h : Turns t resolver calls n s s') :
    Steps t resolver calls s s' := by
  induction h with
  | refl => exact .refl
  | other _ hstep _ ih | own _ hstep _ ih => exact ih.tail hstep

theorem turns_le {n : Nat} {s s' : State} (ho : t.isOver s.clock = true)
    (h : Turns t resolver calls n s s') : n + s'.turnsLeft ≤ s.turnsLeft := by
  induction h with
  | refl => exact (Nat.zero_add _).le
  | other hs hstep hp ih =>
    have hleft := turnsLeft_step (isOver_steps ho (steps_of_turns hs)) hstep
    grind
  | own hs hstep hp ih =>
    have hleft := turnsLeft_step (isOver_steps ho (steps_of_turns hs)) hstep
    grind

/-! ## The end -/

/-- The collector was told only of calls whose answers are there. -/
def Answered (s : State) : Prop := ∀ f ∈ s.phase.taken, s.answers.contains f.number = true

theorem answered_step {s s' : State} (hs : Answered s) (h : Step t resolver calls s s') :
    Answered s' := by
  cases h with
  | @finish f hf hn =>
    intro g hg
    rw [Assoc.contains, Assoc.get?_set]
    split
    · rfl
    · exact hs g hg
  | advance | cancel => exact hs
  | wake hp hperm hd => exact hd
  | collect hp =>
    rw [Answered, hp] at hs
    exact fun f hf => hs f (List.mem_cons_of_mem _ hf)
  | done | giveUp | goOn | timeOut | wait | fail | again =>
    exact fun f hf => absurd hf List.not_mem_nil

theorem answered_steps {s s' : State} (hs : Answered s) (h : Steps t resolver calls s s') :
    Answered s' :=
  keeps_of_step (fun _ _ => answered_step) hs h

/-- The collector can go on until it has ended. -/
theorem exists_turn {s : State} (hs : Answered s) : (∃ x, s.phase = .ended x) ∨
    ∃ s', Step t resolver calls s s' ∧ s'.phase ≠ s.phase := by
  cases hp : s.phase with
  | ended x => exact .inl ⟨x, rfl⟩
  | looking =>
    refine .inr ?_
    by_cases hs : s.pending = []
    · exact ⟨_, .done hp hs, nofun⟩
    · cases hc : s.cancelled with
      | true => exact ⟨_, .giveUp hp hs hc, nofun⟩
      | false => exact ⟨_, .goOn hp hs hc, nofun⟩
  | timing =>
    refine .inr ?_
    cases ho : t.isOver s.clock with
    | true => exact ⟨_, .timeOut hp ho, nofun⟩
    | false => exact ⟨_, .wait hp ho, nofun⟩
  | waiting =>
    -- a wait may end without any call that has finished
    have hwake : Step t resolver calls s { s with phase := .collecting [] } :=
      .wake hp (List.Perm.refl s.pending) nofun
    exact .inr ⟨_, hwake, nofun⟩
  | collecting done =>
    refine .inr ?_
    cases done with
    | nil => exact ⟨_, .again hp, nofun⟩
    | cons f rest =>
      have hanswered := hs f (by rw [hp]; exact List.mem_cons_self)
      obtain ⟨o, hanswer⟩ := Option.isSome_iff_exists.1 hanswered
      cases o with
      | ok specs =>
        refine ⟨_, .collect hp hanswer, fun heq => ?_⟩
        have hlength := congrArg List.length (Phase.collecting.inj heq)
        simp at hlength
      | error x => exact ⟨_, .fail hp hanswer, nofun⟩

theorem exists_end {s : State} (hs : Answered s) (ho : t.isOver s.clock = true) :
    ∃ s' x, Steps t resolver calls s s' ∧ s'.phase = .ended x := by
  -- each step of the collector leaves it fewer
  induction hleft : s.turnsLeft using Nat.strong_induction_on generalizing s with
  | _ n ih =>
    have hturn : (∃ x, s.phase = .ended x) ∨
        ∃ s₁, Step t resolver calls s s₁ ∧ s₁.phase ≠ s.phase := exists_turn hs
    rcases hturn with ⟨x, hx⟩ | ⟨s₁, hstep, hphase⟩
    · exact ⟨s, x, .refl, hx⟩
    · have hfewer : s₁.turnsLeft < n := by
        have := turnsLeft_step ho hstep
        grind
      obtain ⟨s', x, hsteps, hx⟩ :=
        ih _ hfewer (answered_step hs hstep) (isOver_step ho hstep) rfl
      exact ⟨s', x, .head hstep hsteps, hx⟩

/-- The collector has given up, as the caller has cancelled or the timeout has passed. -/
def GivenUp (t : Timeout) (s : State) : Prop :=
  (s.phase = .ended (.error (.tagged .cancelled s.tag)) ∧ s.cancelled = true) ∨
    s.phase = .ended (.error (.tagged (.timedOut t) s.tag))

/-- The collector sees next that the timeout has passed while calls are pending, or it has given
up. -/
inductive Overdue (t : Timeout) (s : State) : Prop
  | late (hp : s.phase = .looking ∨ s.phase = .timing) (hs : s.pending ≠ [])
      (ho : t.isOver s.clock = true)
  | givenUp (h : GivenUp t s)

theorem overdue_step {s s' : State} (hs : Overdue t s) (h : Step t resolver calls s s') :
    Overdue t s' := by
  cases hs with
  | late hp hpending ho =>
    cases h with
    | finish | cancel => exact .late hp hpending ho
    | advance hclock => exact .late hp hpending (Timeout.isOver_of_le ho hclock)
    | giveUp _ _ hc => exact .givenUp (.inl ⟨rfl, hc⟩)
    | timeOut => exact .givenUp (.inr rfl)
    | goOn => exact .late (.inr rfl) hpending ho
    -- Every other step of the collector needs it to be elsewhere, or the timeout not to be over.
    | _ => simp_all
  | givenUp hgiven =>
    cases h with
    | finish | advance => exact .givenUp hgiven
    | cancel => exact .givenUp (hgiven.imp_left fun h => ⟨h.1, rfl⟩)
    | _ => simp_all [GivenUp]

theorem overdue_steps {s s' : State} (hs : Overdue t s) (h : Steps t resolver calls s s') :
    Overdue t s' :=
  keeps_of_step (fun _ _ => overdue_step) hs h

theorem givenUp_of_overdue {s : State} (hs : Overdue t s)
    {x : Except (Raised ResolutionError) Manifest.Resolution} (hx : s.phase = .ended x) :
    GivenUp t s := by
  cases hs with
  | late hp => simp_all
  | givenUp h => exact h

/-- What is left of resolving is a number of steps that the calls bound, and pending calls are given
up. -/
structure Bounded (t : Timeout) (resolver : Resolve.Request → Resolve.Outcome) (calls : Calls)
    (s : State) : Prop where
  few : ∀ n s', Turns t resolver calls n s s' → n ≤ s.phase.taken.length + s.pending.length + 4
  /-- The collector goes on until it has ended. -/
  goesOn : ∀ s', Steps t resolver calls s s' → (∃ x, s'.phase = .ended x) ∨
    ∃ s'', Step t resolver calls s' s'' ∧ s''.phase ≠ s'.phase
  /-- Where it looks while calls are pending, it is about to give up, and nothing else. -/
  givesUp : ∀ s', Steps t resolver calls s s' → s'.phase = .looking ∨ s'.phase = .timing →
    s'.pending ≠ [] → (∃ s'', Steps t resolver calls s' s'' ∧ GivenUp t s'') ∧
      ∀ s'' x, Steps t resolver calls s' s'' → s''.phase = .ended x → GivenUp t s''

/-- When the timeout has passed, what is left of resolving is bounded. -/
theorem bounded_of_isOver {s : State} (hs : Answered s) (ho : t.isOver s.clock = true) :
    Bounded t resolver calls s where
  few n s' h := by
    have hle := turns_le ho h
    have hleft : s.turnsLeft ≤ s.phase.taken.length + s.pending.length + 4 := by
      unfold State.turnsLeft Phase.taken
      cases s.phase <;> grind
    omega
  goesOn s' h := exists_turn (answered_steps hs h)
  givesUp s' h hp hpending := by
    have hoverdue : Overdue t s' := .late hp hpending (isOver_steps ho h)
    have hgives : ∀ s'' x, Steps t resolver calls s' s'' → s''.phase = .ended x → GivenUp t s'' :=
      fun s'' x hsteps hx => givenUp_of_overdue (overdue_steps hoverdue hsteps) hx
    obtain ⟨s'', x, hsteps, hx⟩ := exists_end (answered_steps hs h) (isOver_steps ho h)
    exact ⟨⟨s'', hsteps, hgives s'' x hsteps hx⟩, hgives⟩

/-- No look is taken behind one that sees the timeout passed. -/
theorem run_of_isOver {P : Progress} {before rest : List Pass} {p : Pass}
    (ho : t.isOver p.elapsed = true) :
    P.run t resolver (before ++ p :: rest) = P.run t resolver (before ++ [p]) := by
  induction before generalizing P with
  | nil =>
    simp only [List.nil_append, Progress.run, ho, if_true]
  | cons q before ih =>
    simp only [List.cons_append, Progress.run, ih]

/-- While the timeout has not passed, the collector may look, wait in vain and look again. -/
theorem idle_of_not_isOver {s : State} (ho : t.isOver s.clock = false) (hp : s.phase = .looking)
    (hs : s.pending ≠ []) (hc : s.cancelled = false) :
    Relation.TransGen (Step t resolver calls) s s := by
  have hlook : Step t resolver calls s { s with phase := .timing } := .goOn hp hs hc
  have htime : Step t resolver calls { s with phase := .timing } { s with phase := .waiting } :=
    .wait rfl ho
  have hwake : Step t resolver calls { s with phase := .waiting }
      { s with phase := .collecting [] } := .wake rfl (List.Perm.refl s.pending) nofun
  have hagain : Step t resolver calls { s with phase := .collecting [] }
      { s with phase := .looking } := .again rfl
  rw [show { s with phase := .looking } = s by rw [← hp]] at hagain
  exact (((Relation.TransGen.single hlook).tail htime).tail hwake).tail hagain

theorem answered_start {tag : String} : Answered (.start calls tag) := nofun

/-- The timeout of loaded settings passes the check again, and is a number above zero unless the
file asks for what is no number. The deadline is reached when that time has gone by, and then
resolving comes to an end in a bounded number of steps, with pending calls given up. A timeout that
is no number never passes, and the collector may wait forever. -/
theorem bounds_of_load {path : String} {content : Option String} {s : Settings}
    (h : Settings.load path content = .ok s) :
    (∃ x, s.timeout.seconds = .decimal x ∧ Timeout.ofSeconds (.decimal x) = .ok s.timeout) ∧
    (s.timeout.Positive ↔
      ∀ numeral, Settings.AsksFor content numeral → ¬ Text.WritesNan numeral) ∧
    s.timeout.Kept ∧
    (∀ resolver calls tag r, Steps s.timeout resolver calls (.start calls tag) r →
      s.timeout.isOver r.clock = true → Bounded s.timeout resolver calls r) ∧
    (∀ resolver (P : Progress) before p rest, s.timeout.isOver p.elapsed = true →
      P.run s.timeout resolver (before ++ p :: rest) =
        P.run s.timeout resolver (before ++ [p])) ∧
    (¬ s.timeout.Positive → ∀ resolver calls (r : State), r.phase = .looking → r.pending ≠ [] →
      r.cancelled = false → Relation.TransGen (Step s.timeout resolver calls) r r) := by
  obtain ⟨x, hx, hfits, hseconds⟩ := Settings.decimal_of_load h
  refine ⟨⟨x, hx, hseconds⟩, ?_, Timeout.kept_of_decimal hx hfits, ?_,
    fun resolver P before p rest ho => run_of_isOver ho, ?_⟩
  · rw [Timeout.positive_iff, Settings.undefined_iff_of_load h]
    simp
  · exact fun resolver calls tag r hr ho => bounded_of_isOver (answered_steps answered_start hr) ho
  · intro hundefined resolver calls r hp hpending hc
    have ho : s.timeout.isOver r.clock = false := by
      rw [Timeout.positive_iff, not_not] at hundefined
      rw [Bool.eq_false_iff]
      intro ho
      obtain ⟨a, b, ha, -⟩ := Double.le_iff.1 (Timeout.isOver_iff.1 ho)
      cases hundefined.symm.trans ha
    exact idle_of_not_isOver ho hp hpending hc

/-- Five seconds. -/
def fiveSeconds : Timeout := ⟨.decimal (.finite false (5 * Nat.pow 2 50) (-50)), by decide⟩

/-- One call, for no packages. -/
def oneCall : Calls := [("os", {
  arch := .str "x86_64"
  releasever := .str "40"
  modulePlatformId := .str "platform:f40"
  chain := [] })]

/-- A resolver that finds no packages. -/
def noPackages : Resolve.Request → Resolve.Outcome := fun _ => .ok []

/-- A timeout of five seconds has passed after six. -/
theorem bounds_of_load_five :
    Settings.load "settings.conf" (some "[resolver]\ntimeout_seconds = 5\n") =
        .ok { timeout := fiveSeconds } ∧
      fiveSeconds.Positive ∧ ∃ s, Steps fiveSeconds noPackages oneCall (.start oneCall "a") s ∧
        fiveSeconds.isOver s.clock = true ∧ Bounded fiveSeconds noPackages oneCall s := by
  have hload : Settings.load "settings.conf" (some "[resolver]\ntimeout_seconds = 5\n") =
      .ok { timeout := fiveSeconds } := by decide
  obtain ⟨-, -, -, hbounds, -⟩ := bounds_of_load hload
  have hlate : Steps fiveSeconds noPackages oneCall (.start oneCall "a")
      { State.start oneCall "a" with clock := .finite false 6 0 } := .single (.advance (.inl rfl))
  exact ⟨hload, Timeout.positive_iff.2 nofun, _, hlate, rfl, hbounds _ _ _ _ hlate rfl⟩

/-- The word for no number is let through as a timeout. -/
theorem not_positive_of_nan : ∃ s,
    Settings.load "settings.conf" (some "[resolver]\ntimeout_seconds = nan\n") = .ok s ∧
      ¬ s.timeout.Positive := by
  refine ⟨_, rfl, ?_⟩
  rw [Timeout.positive_iff, not_not]
  rfl

end Compose
end Imagewright
