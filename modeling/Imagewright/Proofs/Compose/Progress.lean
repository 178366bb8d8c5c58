import Imagewright.Compose.Resolution
import Imagewright.Proofs.Assoc
import Imagewright.Proofs.Outcome
import Mathlib.Data.List.Perm.Basic

/-!
# The progress of resolving

While calls of the resolver finish, every call is accounted for: it has not finished, or what the
resolver answered to it is among the results. A run ends well only when no call is left.

## Main definitions

* `Compose.Answers`: every call has its own answer in a result, and there is nothing else.
* `Compose.Progress.Accounts`: every call is pending or has its answer.
* `Compose.Progress.IsTagged`: an error of resolving carries a tag.

## Main statements

* `Compose.Progress.accounts_finish`, `Compose.Progress.accounts_run`: no call gets lost.
* `Compose.answers_of_resolve`: what resolving returns is complete.
* `Compose.failsWith_resolve`: the tags of its errors.
* `Compose.Answers.get?_eq`: a complete result is determined by the calls.
-/
namespace Imagewright.Compose

variable {t : Timeout} {resolver : Resolve.Request → Resolve.Outcome} {calls : Calls}

/-- Every call has its own answer in a result, and there is nothing else. -/
structure Answers (resolver : Resolve.Request → Resolve.Outcome) (calls : Calls)
    (r : Manifest.Resolution) : Prop where
  keys : r.keys.Perm calls.keys
  answered : ∀ e ∈ calls, ∃ specs, resolver e.2 = .ok specs ∧ r.get? e.1 = some specs

theorem Answers.get?_eq {r r' : Manifest.Resolution} (h : Answers resolver calls r)
    (h' : Answers resolver calls r') (pipeline : String) : r.get? pipeline = r'.get? pipeline := by
  by_cases hp : pipeline ∈ calls.keys
  · obtain ⟨e, he, rfl⟩ := List.mem_map.1 hp
    obtain ⟨specs, hspecs, hr⟩ := h.answered e he
    obtain ⟨specs', hspecs', hr'⟩ := h'.answered e he
    obtain rfl := Except.ok.inj (hspecs.symm.trans hspecs')
    rw [hr, hr']
  · have hr : r.get? pipeline = none := Assoc.get?_eq_none_iff.2 fun hm => hp (h.keys.subset hm)
    have hr' : r'.get? pipeline = none :=
      Assoc.get?_eq_none_iff.2 fun hm => hp (h'.keys.subset hm)
    rw [hr, hr']

namespace Progress

variable {s s' : Progress}

/-! ## One call -/

theorem finish_of_ok {p : String} {q : Resolve.Request} {specs : List PackageSpec}
    (hp : s.pending.get? p = some q) (hq : resolver q = .ok specs) :
    s.finish resolver p = .ok { s with
      pending := s.pending.filter (·.1 != p), results := s.results.set p specs } := by
  simp only [finish, hp, hq]

theorem finish_of_error {p : String} {q : Resolve.Request} {f : Resolve.Failure}
    (hp : s.pending.get? p = some q) (hq : resolver q = .error f) :
    s.finish resolver p = .error (raiseFailure s.tag p f) := by
  simp only [finish, hp, hq]

theorem finish_eq_ok {p : String} :
    s.finish resolver p = .ok s' ↔
      (s.pending.get? p = none ∧ s' = s) ∨
        ∃ q specs, s.pending.get? p = some q ∧ resolver q = .ok specs ∧
          s' = { s with
            pending := s.pending.filter (·.1 != p), results := s.results.set p specs } := by
  unfold finish
  cases hp : s.pending.get? p with
  | none => simp [eq_comm]
  | some q =>
    cases hq : resolver q with
    | error f => simp [hq]
    | ok specs => simp [hq, eq_comm]

theorem pending_finish {p : String} (h : s.finish resolver p = .ok s') :
    s'.pending = s.pending.filter (·.1 != p) := by
  rcases finish_eq_ok.1 h with ⟨hnone, rfl⟩ | ⟨q, specs, -, -, rfl⟩
  · symm
    rw [List.filter_eq_self]
    rintro ⟨k, q⟩ he
    have hk : k ∈ Assoc.keys s'.pending := List.mem_map_of_mem (f := (·.1)) he
    simp only [bne_iff_ne]
    rintro rfl
    exact Assoc.get?_eq_none_iff.1 hnone hk
  · rfl

theorem pending_finishAll {pipelines : List String}
    (h : s.finishAll resolver pipelines = .ok s') :
    s'.pending = s.pending.filter fun e => !pipelines.contains e.1 := by
  induction pipelines generalizing s with
  | nil =>
    obtain rfl := (Outcome.pure_eq_ok _ _).1 h
    simp
  | cons p rest ih =>
    obtain ⟨s₁, hp, hrest⟩ := Outcome.bind_eq_ok.1 h
    rw [ih hrest, pending_finish hp, List.filter_filter]
    refine List.filter_congr fun e _ => ?_
    by_cases hep : e.1 = p <;> simp [hep]

theorem pending_finishAll_keys (h : s.finishAll resolver s.pending.keys = .ok s') :
    s'.pending = [] := by
  rw [pending_finishAll h, List.filter_eq_nil_iff]
  intro e he
  have hk : e.1 ∈ Assoc.keys s.pending := List.mem_map_of_mem (f := (·.1)) he
  simpa using hk

/-- Every call is pending or has its answer. -/
structure Accounts (resolver : Resolve.Request → Resolve.Outcome) (calls : Calls) (s : Progress) :
    Prop where
  keys : (s.results.keys ++ s.pending.keys).Perm calls.keys
  pending : ∀ e ∈ s.pending, e ∈ calls
  answered : ∀ e ∈ calls, e ∈ s.pending ∨
    ∃ specs, resolver e.2 = .ok specs ∧ s.results.get? e.1 = some specs

theorem accounts_start (calls : Calls) (id : String) :
    Accounts resolver calls { pending := calls, tag := id } where
  keys := List.Perm.refl _
  pending _ he := he
  answered _ he := .inl he

theorem perm_keys_filter {m : Calls} (hm : m.keys.Nodup) {p : String} {q : Resolve.Request}
    (hp : (p, q) ∈ m) : m.keys.Perm (p :: Assoc.keys (m.filter (·.1 != p))) := by
  have hfilter : Assoc.keys (m.filter (·.1 != p)) = m.keys.filter (· != p) := by
    rw [Assoc.keys, Assoc.keys, List.filter_map]
    rfl
  have hmem : p ∈ m.keys := List.mem_map_of_mem (f := (·.1)) hp
  rw [hfilter, ← hm.erase_eq_filter p]
  exact List.perm_cons_erase hmem

theorem accounts_finish (hc : calls.keys.Nodup) (h : Accounts resolver calls s) {p : String}
    (hf : s.finish resolver p = .ok s') : Accounts resolver calls s' := by
  rcases finish_eq_ok.1 hf with ⟨-, rfl⟩ | ⟨q, specs, hp, hq, rfl⟩
  · exact h
  have hpending : (p, q) ∈ s.pending := Assoc.mem_of_get? hp
  have hnodup : (s.results.keys ++ s.pending.keys).Nodup := h.keys.nodup_iff.2 hc
  have hfresh : p ∉ s.results.keys := fun hr =>
    List.disjoint_of_nodup_append hnodup hr (List.mem_map_of_mem (f := (·.1)) hpending)
  have hresults : (s.results.set p specs).keys = s.results.keys ++ [p] := by
    rw [Assoc.keys_set, if_neg fun hr => hfresh (Assoc.contains_iff.1 hr)]
  refine ⟨?_, fun e he => h.pending e (List.mem_filter.1 he).1, fun e he => ?_⟩
  · rw [hresults, List.append_assoc]
    refine List.Perm.trans ?_ h.keys
    exact (perm_keys_filter (List.Nodup.of_append_right hnodup) hpending).symm.append_left _
  · by_cases hep : e.1 = p
    · -- No other call is for this pipeline, so `e` is the call that finishes.
      have heq : e.2 = q := by
        have hget : calls.get? p = some q := (Assoc.get?_eq_some_iff hc).2 (h.pending _ hpending)
        have hget' : calls.get? e.1 = some e.2 := (Assoc.get?_eq_some_iff hc).2 he
        rw [hep, hget] at hget'
        exact (Option.some.inj hget').symm
      exact .inr ⟨specs, heq ▸ hq, by rw [hep, Assoc.get?_set_self]⟩
    · rcases h.answered e he with he | ⟨specs', hs, hr⟩
      · exact .inl (List.mem_filter.2 ⟨he, by simpa using hep⟩)
      · exact .inr ⟨specs', hs, by rw [Assoc.get?_set_ne _ _ (Ne.symm hep), hr]⟩

/-! ## All calls -/

theorem accounts_finishAll (hc : calls.keys.Nodup) (h : Accounts resolver calls s)
    {pipelines : List String} (hf : s.finishAll resolver pipelines = .ok s') :
    Accounts resolver calls s' :=
  Outcome.foldlM_invariant (Accounts resolver calls) hf h fun _ _ _ _ hs => accounts_finish hc hs

/-- A run that ends well has finished all calls on the way. -/
theorem accounts_run (hc : calls.keys.Nodup) (h : Accounts resolver calls s) {passes : List Pass}
    {r : Manifest.Resolution} (hr : s.run t resolver passes = .ok r) :
    Accounts resolver calls { pending := [], results := r } := by
  induction passes generalizing s with
  | nil =>
    obtain ⟨s₁, hs, hr⟩ := Outcome.bind_eq_ok.1 hr
    obtain rfl := (Outcome.pure_eq_ok _ _).1 hr
    obtain ⟨hkeys, hpending, hanswered⟩ := accounts_finishAll hc h hs
    rw [pending_finishAll_keys hs] at hkeys hpending hanswered
    exact ⟨hkeys, hpending, hanswered⟩
  | cons p rest ih =>
    unfold run at hr
    split_ifs at hr with hempty
    · obtain rfl := Except.ok.inj hr
      obtain ⟨hkeys, hpending, hanswered⟩ := h
      rw [List.isEmpty_iff.1 hempty] at hkeys hpending hanswered
      exact ⟨hkeys, hpending, hanswered⟩
    · obtain ⟨s₁, hs, hrest⟩ := Outcome.bind_eq_ok.1 hr
      exact ih (accounts_finishAll hc h hs) hrest

theorem answers_of_run (hc : calls.keys.Nodup) {id : String} {passes : List Pass}
    {r : Manifest.Resolution} (hr : run t resolver { pending := calls, tag := id } passes = .ok r) :
    Answers resolver calls r := by
  have h := accounts_run hc (accounts_start calls id) hr
  refine ⟨by simpa [Assoc.keys] using h.keys, fun e he => ?_⟩
  rcases h.answered e he with hpending | hanswer
  · cases hpending
  · exact hanswer

/-! ## Good ends -/

theorem succeeds_finishAll (h : ∀ e ∈ s.pending, Outcome.Succeeds (resolver e.2))
    (pipelines : List String) : Outcome.Succeeds (s.finishAll resolver pipelines) := by
  induction pipelines generalizing s with
  | nil => exact Outcome.succeeds_ok s
  | cons p rest ih =>
    have hfinish : Outcome.Succeeds (s.finish resolver p) := by
      cases hp : s.pending.get? p with
      | none => exact ⟨s, finish_eq_ok.2 (.inl ⟨hp, rfl⟩)⟩
      | some q =>
        obtain ⟨specs, hq⟩ := h _ (Assoc.mem_of_get? hp)
        exact ⟨_, finish_of_ok hp hq⟩
    rw [finishAll, List.foldlM_cons]
    refine Outcome.succeeds_bind hfinish fun s' hs' => ih fun e he => h e ?_
    rw [pending_finish hs'] at he
    exact (List.mem_filter.1 he).1

/-! ## Bad ends -/

/-- An error of resolving that carries a tag. Only a timeout that makes no deadline has no place for
one. -/
def IsTagged (id : String) (r : Raised ResolutionError) : Prop :=
  r.error ≠ .noDeadline ∧ r.tag = some id

theorem isTagged_raiseFailure (id pipeline : String) (f : Resolve.Failure) :
    IsTagged id (raiseFailure id pipeline f) := by
  cases f <;> exact ⟨nofun, rfl⟩

theorem tag_finish {p : String} (h : s.finish resolver p = .ok s') : s'.tag = s.tag := by
  rcases finish_eq_ok.1 h with ⟨-, rfl⟩ | ⟨_, _, -, -, rfl⟩ <;> rfl

theorem tag_finishAll {pipelines : List String} (h : s.finishAll resolver pipelines = .ok s') :
    s'.tag = s.tag :=
  Outcome.foldlM_invariant (fun s' => s'.tag = s.tag) h rfl
    fun _ _ _ _ htag hfinish => (tag_finish hfinish).trans htag

theorem failsWith_finishAll (pipelines : List String) :
    Outcome.FailsWith (IsTagged s.tag) (s.finishAll resolver pipelines) := by
  induction pipelines generalizing s with
  | nil => exact Outcome.failsWith_ok s
  | cons p rest ih =>
    rw [finishAll, List.foldlM_cons]
    refine Outcome.failsWith_bind ?_ fun s' hs' => tag_finish hs' ▸ ih
    unfold finish
    split
    · exact Outcome.failsWith_ok s
    · split
      · exact Outcome.failsWith_ok _
      · exact Outcome.failsWith_error (isTagged_raiseFailure ..)

theorem failsWith_run (passes : List Pass) :
    Outcome.FailsWith (IsTagged s.tag) (s.run t resolver passes) := by
  induction passes generalizing s with
  | nil => exact Outcome.failsWith_bind (failsWith_finishAll _) fun _ _ => Outcome.failsWith_ok _
  | cons p rest ih =>
    unfold run
    split_ifs
    · exact Outcome.failsWith_ok _
    · exact Outcome.failsWith_error ⟨nofun, rfl⟩
    · exact Outcome.failsWith_error ⟨nofun, rfl⟩
    · exact Outcome.failsWith_bind (failsWith_finishAll _) fun s' hs' => tag_finishAll hs' ▸ ih

end Progress

/-- What resolving returns is complete. -/
theorem answers_of_resolve (hc : calls.keys.Nodup) {id : String} {passes : List Pass}
    {r : Manifest.Resolution} (hr : resolve t resolver calls id passes = .ok r) :
    Answers resolver calls r := by
  unfold resolve at hr
  split_ifs at hr
  exact Progress.answers_of_run hc hr

/-- An error of resolving carries the tag of the command, unless the timeout makes no deadline. -/
theorem failsWith_resolve (id : String) (passes : List Pass) :
    Outcome.FailsWith (fun r => Progress.IsTagged id r ∨ t.seconds.toDouble?.isNone = true ∧
      r = .plain .noDeadline) (resolve t resolver calls id passes) := by
  unfold resolve
  split
  · next hdeadline =>
    exact Outcome.failsWith_error (.inr ⟨(Bool.and_eq_true_iff.1 hdeadline).2, rfl⟩)
  · exact fun r hr => .inl (Progress.failsWith_run passes r hr)

/-- Where no call fails and nobody looks at the clock, there are packages. -/
theorem succeeds_resolve (id : String) (ht : t.seconds.toDouble?.isSome = true)
    (h : ∀ e ∈ calls, Outcome.Succeeds (resolver e.2)) :
    Outcome.Succeeds (resolve t resolver calls id []) := by
  have hdeadline : ¬ (!calls.isEmpty && t.seconds.toDouble?.isNone) = true := by
    simp [Option.isNone_iff_eq_none, Option.ne_none_iff_isSome.2 ht]
  rw [resolve, if_neg hdeadline, Progress.run]
  exact Outcome.succeeds_bind (Progress.succeeds_finishAll h _) fun _ _ => Outcome.succeeds_pure _

end Imagewright.Compose
