import Imagewright.Proofs.Number.Order
import Imagewright.Proofs.Resolve.Repositories

/-!
# What comes of a helper's answer

Whatever a helper writes, its answer is taken over package by package or refused, with two
exceptions: a document beyond the limits of the reader, and a package whose epoch is infinite. Apart
from what the helper writes, a request that cannot be written and a time that cannot be waited for
break the resolver.

## Main definitions

* `Depsolve.Timed`, `Depsolve.Waitable`: a value is a time, and one that can be waited for.
* `Depsolve.Denotes`: the integer that a value denotes as an epoch.
* `Depsolve.Decodes`: a value of an answer describes a package.
* `Depsolve.Ending.Lists`, `Depsolve.Ending.Unreadable`: a helper has written a list of packages, or
  what goes beyond the limits of the reader.
* `Depsolve.Ending.Unwaited`: a helper has not been waited for.
* `Depsolve.Overflows`: the first value of an answer that is no package has an infinite epoch.

## Main statements

* `Depsolve.packageOf_eq_ok`, `Depsolve.failsWith_packageOf`: which package a value is, and which
  values break the resolver.
* `Depsolve.interpret_eq_ok`, `Depsolve.interpret_breaks`: the same for what a helper does.
* `Depsolve.resolve_outcome`: when a request is resolved, and when the resolver breaks.
* `Depsolve.resolve_infinity`: an infinite epoch breaks the resolver.
-/
namespace Imagewright

theorem Value.field_eq_ok {v w : Value} {key : String} :
    v.field key = .ok w ↔ v.get? key = .ok (some w) := by
  unfold Value.field
  cases v.get? key with
  | error e => simp
  | ok found => cases found <;> simp

theorem Value.get?_eq_ok {v : Value} {key : String} {found : Option Value} :
    v.get? key = .ok found ↔ ∃ fields, v = .obj fields ∧ Assoc.get? fields key = found := by
  cases v <;> simp [Value.get?]

theorem Value.getD_eq_ok {v w fallback : Value} {key : String} :
    v.getD key fallback = .ok w ↔
      v.get? key = .ok (some w) ∨ v.get? key = .ok none ∧ fallback = w := by
  unfold Value.getD
  cases v.get? key with
  | error e => simp [Except.map]
  | ok found => cases found <;> simp [Except.map]

namespace Resolve.Depsolve

open Outcome (failsWith_bind)

variable {d : Depsolve} {q : Request} {v : Value} {p : PackageSpec} {specs : List PackageSpec}

/-- A value is a number of seconds in the range of floating-point numbers. -/
def Timed (v : Value) : Prop := ∃ s x, Seconds.ofValue? v = some s ∧ s.toDouble? = some x

/-- A value is a number of seconds that can be waited for: what waits counts milliseconds up to
`2 ^ 31 - 1`. -/
def Waitable (v : Value) : Prop :=
  ∃ s a, Seconds.ofValue? v = some s ∧ s.exact.extended? = some a ∧
    a ≤ (((2 ^ 31 - 1) / 1000 : ℚ) : WithTop ℚ)

/-- The integer that a value denotes as an epoch: zero for nothing and what is false, the integer
part of a number, and what a text says in digits. -/
inductive Denotes : Value → Int → Prop where
  | nothing {v : Value} (h : v.truthy = false) : Denotes v 0
  | int (n : Int) : Denotes (.int n) n
  | truth : Denotes (.bool true) 1
  | text {s : String} {n : Int} (hne : s ≠ "") (h : Text.readInt 10 s = .ok n) : Denotes (.str s) n
  | float {x : Double} {n : Int} (hne : x.isZero = false) (h : x.truncate? = some n) :
    Denotes (.float x) n

/-- A value of an answer describes a package: all that the package has is said by the value, or by
the repository that the value names. -/
structure Decodes (q : Request) (v : Value) (p : PackageSpec) : Prop where
  name : v.get? "name" = .ok (some p.name)
  epoch : ∃ w n, v.getD "epoch" .null = .ok w ∧ Denotes w n ∧ p.epoch = .int n
  version : v.get? "version" = .ok (some p.version)
  release : v.get? "release" = .ok (some p.release)
  arch : v.get? "arch" = .ok (some p.arch)
  remoteLocation : v.get? "remote_location" = .ok (some p.remoteLocation)
  checksum : v.get? "checksum" = .ok (some (.str p.checksum))
  settings : ∃ id repository, v.getD "repo_id" "" = .ok id ∧
    repositoryOf (lastById q.repositories) id = .ok repository ∧ Heeds repository v p

/-- The epoch of a value is infinite, and what is looked at before it is as it should be. -/
def InfiniteEpoch (v : Value) : Prop :=
  ∃ id name negative, v.getD "repo_id" "" = .ok id ∧ id.isAtomic = true ∧
    v.get? "name" = .ok (some name) ∧ v.get? "epoch" = .ok (some (.float (.infinite negative)))

/-- The first value of an answer that is no package has an infinite epoch. -/
def Overflows (q : Request) (packages : List Value) : Prop :=
  ∃ before v after, packages = before ++ v :: after ∧ (∀ w ∈ before, ∃ p, Decodes q w p) ∧
    InfiniteEpoch v

namespace Ending

/-- A helper has not been waited for. -/
def Unwaited (ending : Ending) : Prop := ∃ reason, ending = .unwaitable reason

/-- A code is an integer, what a helper has written are texts, and it is waited for if its time can
be. -/
def Plain (c : Call) : Ending → Prop
  | .exited code stdout stderr => ∃ n s t, code = .int n ∧ stdout = .str s ∧ stderr = .str t
  | .unwaitable _ => ¬ Waitable c.timeout
  | .timedOut | .notStarted _ => True

/-- A helper has ended well and written an object with a list of packages. -/
def Lists (ending : Ending) (packages : List Value) : Prop :=
  ∃ stdout stderr fields, ending = .exited (.int 0) (.str stdout) stderr ∧
    Json.read stdout = .ok (.obj fields) ∧ Assoc.get? fields "packages" = some (.list packages)

/-- A helper has written what goes beyond the limits of the reader. -/
def Unreadable (ending : Ending) : Prop :=
  ∃ code stdout stderr e, ending = .exited code (.str stdout) stderr ∧
    Json.read stdout = .error e ∧ e ≠ .malformed

end Ending

/-- The resolver breaks, which is neither a refusal nor a cancellation. -/
def Error.Breaks (e : Error) : Prop := ∃ message, e.failure = .broken message

theorem Error.breaks_iff {e : Error} : e.Breaks ↔ (∃ limit, e = .unread limit) ∨
    (∃ reason, e = .unwaitable reason) ∨ e = .infiniteEpoch ∨ e = .longTime ∨ e = .textTime ∨
      e = .wrongType := by
  cases e <;> simp [Error.Breaks, Error.failure]

/-! ## Epochs -/

theorem epochOf_of_denotes {n : Int} (h : Denotes v n) : epochOf v = .ok n := by
  cases h with
  | nothing h => simp [epochOf, h]
  | int =>
    by_cases hn : n = 0
    · subst hn
      rfl
    · simp [epochOf, Value.truthy, hn]
  | truth => rfl
  | text hne h => simp [epochOf, Value.truthy, hne, h, Except.mapError]
  | @float x _ hne h =>
    cases x with
    | finite => simp [epochOf, Value.truthy, hne, h]
    | infinite => cases h
    | nan => cases h

theorem denotes_of_epochOf {n : Int} (h : epochOf v = .ok n) : Denotes v n := by
  unfold epochOf at h
  split at h
  · next hfalse =>
    obtain rfl := Except.ok.inj h
    exact .nothing (by simpa using hfalse)
  · next htrue =>
    have htruthy : v.truthy = true := by simpa using htrue
    split at h
    · obtain rfl := Except.ok.inj h
      exact .int _
    · obtain rfl := Except.ok.inj h
      obtain rfl : _ = true := htruthy
      exact .truth
    · exact .text (by simpa [Value.truthy] using htruthy) (Outcome.mapError_eq_ok.1 h)
    · cases h
    · split at h
      · next hn =>
        obtain rfl := Except.ok.inj h
        exact .float (by simpa [Value.truthy] using htruthy) hn
      · cases h
    · cases h

theorem epochOf_eq_ok {n : Int} : epochOf v = .ok n ↔ Denotes v n :=
  ⟨denotes_of_epochOf, epochOf_of_denotes⟩

/-- A value that is refused as an epoch, unless it is an infinite number. -/
theorem failsWith_epochOf (v : Value) : Outcome.FailsWith
    (fun e => (∃ defect, e = .badPackage defect) ∨
      e = .infiniteEpoch ∧ ∃ negative, v = .float (.infinite negative)) (epochOf v) := by
  intro e h
  unfold epochOf at h
  split at h
  · cases h
  · split at h
    · cases h
    · cases h
    · obtain ⟨defect, -, rfl⟩ := Outcome.mapError_eq_error.1 h
      exact .inl ⟨_, rfl⟩
    · exact .inl ⟨_, (Except.error.inj h).symm⟩
    · next x hnan _ =>
      cases x with
      | finite => cases h
      | infinite negative => exact .inr ⟨(Except.error.inj h).symm, negative, rfl⟩
      | nan origin => exact absurd rfl (hnan origin)
    · exact .inl ⟨_, (Except.error.inj h).symm⟩

/-! ## Packages -/

theorem isAtomic_iff_repositoryOf {m : Assoc String Repository} {id : Value} :
    id.isAtomic = true ↔ ∃ repository, repositoryOf m id = .ok repository := by
  cases id <;> simp [repositoryOf, Value.isAtomic]

theorem packageOf_eq_ok : packageOf (lastById q.repositories) v = .ok p ↔ Decodes q v p := by
  simp only [packageOf, part, Outcome.bind_eq_ok, Outcome.mapError_eq_ok, Value.field_eq_ok,
    PackageSpec.ofDraft_eq_ok, epochOf_eq_ok]
  constructor
  · rintro ⟨repository, ⟨id, hid, hrepository⟩, name, hname, w, hw, n, hn, version, hversion,
      release, hrelease, arch, harch, location, hlocation, checksum, hchecksum, check, hcheck, hp⟩
    obtain ⟨rfl, hepoch, rfl, rfl, rfl, rfl, rfl, hsign, hssl⟩ := PackageSpec.Draft.mk.inj hp
    exact {
      name := hname, version := hversion, release := hrelease, arch := harch
      remoteLocation := hlocation, checksum := hchecksum
      epoch := ⟨w, n, hw, hn, hepoch⟩
      settings := ⟨id, repository, hid, hrepository, hssl, check, hcheck, hsign⟩ }
  · rintro ⟨hname, ⟨w, n, hw, hn, hepoch⟩, hversion, hrelease, harch, hlocation, hchecksum,
      id, repository, hid, hrepository, hssl, check, hcheck, hsign⟩
    refine ⟨repository, ⟨id, hid, hrepository⟩, _, hname, w, hw, n, hn, _, hversion, _, hrelease,
      _, harch, _, hlocation, _, hchecksum, check, hcheck, ?_⟩
    rw [PackageSpec.draft, hepoch, hssl, hsign]

theorem failsWith_part {α : Type} (x : Except Value.Mismatch α) :
    Outcome.FailsWith (fun e => ∃ defect, e = .badPackage defect) (part x) := by
  intro e h
  obtain ⟨m, -, rfl⟩ := Outcome.mapError_eq_error.1 h
  exact ⟨_, rfl⟩

/-- A value is refused as a package, unless its epoch is infinite. -/
theorem failsWith_packageOf (m : Assoc String Repository) (v : Value) : Outcome.FailsWith
    (fun e => (∃ defect, e = .badPackage defect) ∨ e = .infiniteEpoch ∧ InfiniteEpoch v)
    (packageOf m v) := by
  have hpart {α : Type} (x : Except Value.Mismatch α) : Outcome.FailsWith
      (fun e => (∃ defect, e = .badPackage defect) ∨ e = .infiniteEpoch ∧ InfiniteEpoch v)
      (part x) := fun e h => .inl (failsWith_part x e h)
  refine failsWith_bind (hpart _) fun repository hrepository => ?_
  refine failsWith_bind (hpart _) fun name hname => ?_
  refine failsWith_bind (hpart _) fun w hw => ?_
  refine failsWith_bind (fun e h => ?_) fun epoch _ => ?_
  · -- the only step that may break the resolver
    refine (failsWith_epochOf w e h).imp_right fun ⟨he, negative, hinfinite⟩ => ⟨he, ?_⟩
    subst hinfinite
    obtain ⟨id, hid, hrepository⟩ :=
      Outcome.bind_eq_ok.1 (Outcome.mapError_eq_ok.1 hrepository)
    have hepoch := (Value.getD_eq_ok.1 (Outcome.mapError_eq_ok.1 hw)).resolve_right (by simp)
    exact ⟨id, name, negative, hid, isAtomic_iff_repositoryOf.2 ⟨repository, hrepository⟩,
      Value.field_eq_ok.1 (Outcome.mapError_eq_ok.1 hname), hepoch⟩
  · iterate 6 refine failsWith_bind (hpart _) fun _ _ => ?_
    intro e h
    obtain ⟨defect, -, rfl⟩ := Outcome.mapError_eq_error.1 h
    exact .inl ⟨_, rfl⟩

theorem packageOf_of_infiniteEpoch (m : Assoc String Repository) (h : InfiniteEpoch v) :
    packageOf m v = .error .infiniteEpoch := by
  obtain ⟨id, name, negative, hid, hatomic, hname, hepoch⟩ := h
  obtain ⟨repository, hrepository⟩ := (isAtomic_iff_repositoryOf (m := m)).1 hatomic
  rw [packageOf, hid, Value.field_eq_ok.2 hname, Value.getD_eq_ok.2 (.inl hepoch),
    Outcome.ok_bind, hrepository]
  rfl

/-! ## Documents -/

theorem packagesOf_breaks : (∃ e, packagesOf (lastById q.repositories) v = .error e ∧ e.Breaks) ↔
    ∃ packages, v.get? "packages" = .ok (some (.list packages)) ∧ Overflows q packages := by
  constructor
  · rintro ⟨e, h, hbreaks⟩
    unfold packagesOf at h
    split at h
    · next packages hv =>
      obtain ⟨before, w, after, heq, hbefore, hw⟩ := Outcome.mapM_eq_error.1 h
      rcases failsWith_packageOf _ _ e hw with ⟨defect, rfl⟩ | ⟨-, hinfinite⟩
      · simp [Error.breaks_iff] at hbreaks
      · exact ⟨packages, hv, before, w, after, heq,
          fun x hx => (hbefore x hx).imp fun _ => packageOf_eq_ok.1, hinfinite⟩
    · obtain rfl := Except.error.inj h
      simp [Error.breaks_iff] at hbreaks
  · rintro ⟨packages, hv, before, w, after, heq, hbefore, hinfinite⟩
    refine ⟨.infiniteEpoch, ?_, _, rfl⟩
    rw [packagesOf, hv]
    exact Outcome.mapM_eq_error.2 ⟨before, w, after, heq,
      fun x hx => (hbefore x hx).imp fun _ => packageOf_eq_ok.2,
      packageOf_of_infiniteEpoch _ hinfinite⟩

@[simp] theorem not_lists_timedOut {packages : List Value} : ¬ Ending.timedOut.Lists packages := by
  rintro ⟨_, _, _, ⟨⟩, _⟩

@[simp] theorem not_lists_notStarted {reason : String} {packages : List Value} :
    ¬ (Ending.notStarted reason).Lists packages := by
  rintro ⟨_, _, _, ⟨⟩, _⟩

@[simp] theorem not_lists_unwaitable {reason : String} {packages : List Value} :
    ¬ (Ending.unwaitable reason).Lists packages := by
  rintro ⟨_, _, _, ⟨⟩, _⟩

@[simp] theorem not_unreadable_unwaitable {reason : String} :
    ¬ (Ending.unwaitable reason).Unreadable := by
  rintro ⟨_, _, _, _, ⟨⟩, _⟩

@[simp] theorem unwaited_iff {ending : Ending} :
    ending.Unwaited ↔ ∃ reason, ending = .unwaitable reason := Iff.rfl

@[simp] theorem not_unreadable_timedOut : ¬ Ending.timedOut.Unreadable := by
  rintro ⟨_, _, _, _, ⟨⟩, _⟩

@[simp] theorem not_unreadable_notStarted {reason : String} :
    ¬ (Ending.notStarted reason).Unreadable := by
  rintro ⟨_, _, _, _, ⟨⟩, _⟩

theorem lists_exited {n : Int} {stdout : String} {stderr : Value} {packages : List Value} :
    (Ending.exited (.int n) (.str stdout) stderr).Lists packages ↔ n = 0 ∧ ∃ v,
      Json.read stdout = .ok v ∧ v.get? "packages" = .ok (some (.list packages)) := by
  simp only [Value.get?_eq_ok]
  constructor
  · rintro ⟨_, _, fields, hending, hread, hfound⟩
    cases hending
    exact ⟨rfl, _, hread, fields, rfl, hfound⟩
  · rintro ⟨rfl, _, hread, fields, rfl, hfound⟩
    exact ⟨stdout, stderr, fields, rfl, hread, hfound⟩

theorem unreadable_exited {code stderr : Value} {stdout : String} :
    (Ending.exited code (.str stdout) stderr).Unreadable ↔
      ∃ e, Json.read stdout = .error e ∧ e ≠ .malformed := by
  constructor
  · rintro ⟨_, _, _, e, hending, hread, hlimit⟩
    cases hending
    exact ⟨e, hread, hlimit⟩
  · rintro ⟨e, hread, hlimit⟩
    exact ⟨code, stdout, stderr, e, rfl, hread, hlimit⟩

theorem answerOf_of_ok {stdout : String} (h : Json.read stdout = .ok v) :
    answerOf q (.str stdout) = packagesOf (lastById q.repositories) v := by
  rw [answerOf, h]

theorem answerOf_of_error {stdout : String} {e : Json.ReadError} (h : Json.read stdout = .error e) :
    answerOf q (.str stdout) =
      .error (if e = .malformed then .malformedOutput else .unread e) := by
  rw [answerOf, h]
  cases e <;> rfl

theorem answerOf_eq_ok {stdout : String} : answerOf q (.str stdout) = .ok specs ↔
    ∃ packages, (∃ v, Json.read stdout = .ok v ∧
      v.get? "packages" = .ok (some (.list packages))) ∧
        List.Forall₂ (Decodes q) packages specs := by
  cases hread : Json.read stdout with
  | error e => simp [answerOf_of_error hread]
  | ok v =>
    rw [answerOf_of_ok hread, packagesOf_eq_ok]
    simp [Outcome.mapM_eq_ok, packageOf_eq_ok]

theorem answerOf_breaks {stdout : String} :
    (∃ e, answerOf q (.str stdout) = .error e ∧ e.Breaks) ↔
      (∃ e, Json.read stdout = .error e ∧ e ≠ .malformed) ∨
        ∃ packages, (∃ v, Json.read stdout = .ok v ∧
          v.get? "packages" = .ok (some (.list packages))) ∧ Overflows q packages := by
  cases hread : Json.read stdout with
  | error e =>
    by_cases he : e = .malformed <;>
      simp [answerOf_of_error hread, he, Error.breaks_iff]
  | ok v =>
    rw [answerOf_of_ok hread, packagesOf_breaks]
    simp

/-- A helper that fails is refused, unless what it writes is beyond the limits of the reader. -/
theorem reportedError_breaks {code : Value} {stdout stderr : String} :
    (reportedError code (.str stdout) (.str stderr)).Breaks ↔
      ∃ e, Json.read stdout = .error e ∧ e ≠ .malformed := by
  cases hread : Json.read stdout with
  | error e => cases e <;> simp [reportedError, complaintOf, hread, Error.breaks_iff]
  | ok v =>
    simp only [reportedError, complaintOf, hread]
    split <;> simp [Error.breaks_iff]

/-! ## Times -/

theorem exists_timeOf (h : Timed v) : ∃ x, timeOf v = .ok x := by
  obtain ⟨s, x, hs, hx⟩ := h
  exact ⟨x, by simp [timeOf, hs, hx]⟩

theorem exists_tellTime (h : Timed v) : ∃ text, tellTime v = .ok text := by
  obtain ⟨x, hx⟩ := exists_timeOf h
  obtain ⟨s, _, hs, -⟩ := h
  cases v with
  | str => cases hs
  | _ => exact ⟨x.brief, by simp [tellTime, hx]⟩

theorem timed_float (x : Double) : Timed (.float x) := ⟨.decimal x, x, rfl, rfl⟩

/-- With times for limits a helper is run with a time for its limit, or there is no time left. -/
theorem callTimeout_of_timed {remaining : Value} (hd : Timed d.timeout)
    (hr : remaining = .null ∨ Timed remaining) :
    d.callTimeout remaining = .error .deadlinePassed ∨
      ∃ t, d.callTimeout remaining = .ok t ∧ Timed t := by
  rcases hr with rfl | hr
  · exact .inr ⟨d.timeout, rfl, hd⟩
  · obtain ⟨limit, _, hlimit, -⟩ := id hd
    obtain ⟨left, hleft⟩ := exists_timeOf hr
    have hnull : remaining.isNull = false := by
      obtain ⟨_, _, hs, -⟩ := hr
      cases remaining with
      | null => cases hs
      | _ => rfl
    simp only [callTimeout, hnull, hleft, hlimit, Bool.false_eq_true, if_false, Outcome.ok_bind]
    by_cases hpassed : left.isNonPositive = true
    · exact .inl (if_pos hpassed)
    · refine .inr ⟨_, if_neg hpassed, ?_⟩
      split
      · exact timed_float left
      · exact hd

/-! ## Endings -/

theorem interpret_eq_ok {c : Call} {ending : Ending} (h : ending.Plain c) :
    d.interpret q c ending = .ok specs ↔
      ∃ packages, ending.Lists packages ∧ List.Forall₂ (Decodes q) packages specs := by
  cases ending with
  | timedOut => cases htime : tellTime c.timeout <;> simp [interpret, htime]
  | notStarted reason | unwaitable reason => simp [interpret]
  | exited code stdout stderr =>
    obtain ⟨n, stdout, stderr, rfl, rfl, rfl⟩ := h
    simp only [lists_exited]
    by_cases hn : n = 0
    · subst hn
      simpa [interpret, Value.sameAsInt] using answerOf_eq_ok
    · simp [interpret, Value.sameAsInt, hn, Ne.symm hn]

theorem interpret_breaks {c : Call} {ending : Ending} (hc : Timed c.timeout)
    (h : ending.Plain c) : (∃ e, d.interpret q c ending = .error e ∧ e.Breaks) ↔
      ending.Unwaited ∨ ending.Unreadable ∨
        ∃ packages, ending.Lists packages ∧ Overflows q packages := by
  cases ending with
  | timedOut =>
    obtain ⟨text, htext⟩ := exists_tellTime hc
    have htold : d.interpret q c .timedOut = .error (.timedOut text) := by
      rw [interpret, htext]
      rfl
    simp [htold, Error.breaks_iff]
  | notStarted reason | unwaitable reason => simp [interpret, Error.breaks_iff]
  | exited code stdout stderr =>
    obtain ⟨n, stdout, stderr, rfl, rfl, rfl⟩ := h
    simp only [lists_exited, unreadable_exited]
    by_cases hn : n = 0
    · subst hn
      simpa [interpret, Value.sameAsInt] using answerOf_breaks
    · simpa [interpret, Value.sameAsInt, hn, Ne.symm hn] using reportedError_breaks

/-! ## Requests -/

/-- A helper is called if there is time left and the request can be written. -/
theorem call_eq_ok {remaining : Value} {c : Call} : d.call q remaining = .ok c ↔
    Json.isWritable (d.document q) = true ∧ ∃ t, d.callTimeout remaining = .ok t ∧
      c = { arguments := [d.command], input := d.document q, timeout := t } := by
  unfold call
  cases d.callTimeout remaining with
  | error e => simp
  | ok t =>
    cases Json.isWritable (d.document q) with
    | false => exact iff_of_false nofun (by simp)
    | true => simp [eq_comm]

/-- The time for a call is that for the helper, or less is left. -/
theorem callTimeout_cases {remaining t : Value} (h : d.callTimeout remaining = .ok t) :
    t = d.timeout ∨ ∃ left s, t = .float left ∧ Seconds.ofValue? d.timeout = some s ∧
      left.compare? s.exact = some .lt := by
  unfold callTimeout at h
  cases hnull : remaining.isNull with
  | true =>
    rw [hnull] at h
    exact .inl (Except.ok.inj h).symm
  | false =>
    rw [hnull] at h
    obtain ⟨left, -, h⟩ := Outcome.bind_eq_ok.1 h
    cases hpassed : left.isNonPositive with
    | true =>
      rw [hpassed] at h
      cases h
    | false =>
      rw [hpassed] at h
      cases hs : Seconds.ofValue? d.timeout with
      | none =>
        rw [hs] at h
        cases h
      | some s =>
        rw [hs] at h
        have ht : (if left.compare? s.exact == some .lt then Value.float left else d.timeout) = t :=
          Except.ok.inj h
        split at ht
        · next hless => exact .inr ⟨left, s, ht.symm, rfl, beq_iff_eq.1 hless⟩
        · exact .inl ht.symm

/-- What is shorter than what can be waited for can be waited for too. -/
theorem waitable_of_callTimeout {remaining t : Value} (hd : Waitable d.timeout)
    (h : d.callTimeout remaining = .ok t) : Waitable t := by
  rcases callTimeout_cases h with rfl | ⟨left, s, rfl, hs, hless⟩
  · exact hd
  · obtain ⟨s', a, hs', ha, hle⟩ := hd
    obtain rfl := Option.some.inj (hs.symm.trans hs')
    obtain ⟨b, a', hb, ha', hba⟩ := Double.le_iff.1 (.inl hless : left ≤ s.exact)
    obtain rfl := Option.some.inj (ha.symm.trans ha')
    exact ⟨.decimal left, b, rfl, hb, hba.trans hle⟩

/-- A request is resolved exactly if its helper ends well and writes an object with a list of
packages, one after the other. Otherwise it is refused or cancelled, but for what is beyond the
limits of the reader and for an infinite epoch, and unless the request cannot be written or the time
is none that can be waited for. -/
theorem resolve_outcome {remaining : Value} {helper : Call → Ending} (hd : Timed d.timeout)
    (hr : remaining = .null ∨ Timed remaining) (hh : ∀ c, (helper c).Plain c) :
    (∀ specs, d.resolve q remaining helper = .ok specs ↔
      ∃ c packages, d.call q remaining = .ok c ∧ (helper c).Lists packages ∧
        List.Forall₂ (Decodes q) packages specs) ∧
    ((∃ e, d.resolve q remaining helper = .error e ∧ e.Breaks) ↔
      (∃ t, d.callTimeout remaining = .ok t ∧ Json.isWritable (d.document q) = false) ∨
      ∃ c, d.call q remaining = .ok c ∧
        ((helper c).Unwaited ∨ (helper c).Unreadable ∨
          ∃ packages, (helper c).Lists packages ∧ Overflows q packages)) ∧
    (Waitable d.timeout → ∀ c, d.call q remaining = .ok c → ¬ (helper c).Unwaited) := by
  have hwaited : Waitable d.timeout → ∀ c, d.call q remaining = .ok c → ¬ (helper c).Unwaited := by
    rintro hwaitable c hc ⟨reason, hreason⟩
    have hplain := hh c
    rw [hreason] at hplain
    obtain ⟨-, t, ht, rfl⟩ := call_eq_ok.1 hc
    exact hplain (waitable_of_callTimeout hwaitable ht)
  rw [← and_assoc]
  refine ⟨?_, hwaited⟩
  unfold resolve
  rcases callTimeout_of_timed hd hr with h | ⟨t, h, ht⟩
  · have hcall : d.call q remaining = .error .deadlinePassed := by
      rw [call, h]
      rfl
    simp [h, hcall, Error.breaks_iff]
  · cases hwritable : Json.isWritable (d.document q) with
    | false =>
      have hcall : d.call q remaining = .error .wrongType := by
        rw [call, h, hwritable]
        rfl
      simp [h, hcall, Error.breaks_iff]
    | true =>
      obtain ⟨c, hcall, hc⟩ : ∃ c, d.call q remaining = .ok c ∧ Timed c.timeout :=
        ⟨_, call_eq_ok.2 ⟨hwritable, t, h, rfl⟩, ht⟩
      simp [hcall, interpret_eq_ok (hh c), interpret_breaks hc (hh c)]

/-- The helper lists packages that differ in what they say about their epochs. -/
def listsEpochs (epochs : List String) (_ : Call) : Ending :=
  .exited (.int 0) (.str ("\x7b\"packages\":[" ++ String.intercalate "," (epochs.map fun epoch =>
    "\x7b\"name\":\"a\",\"version\":\"1\",\"release\":\"1\",\"arch\":\"x\"," ++
      "\"remote_location\":\"u\",\"checksum\":\"sha1:a\"" ++ epoch ++ "\x7d") ++ "]\x7d"))
    (.str "")

theorem plain_listsEpochs (epochs : List String) (c : Call) : (listsEpochs epochs c).Plain c :=
  ⟨0, _, _, rfl, rfl, rfl⟩

theorem resolve_outcome_epochs :
    let helper := listsEpochs [",\"epoch\":2.9", ""]
    Timed ({} : Depsolve).timeout ∧ (∀ c, (helper c).Plain c) ∧ ∃ c packages specs,
      ({} : Depsolve).resolve (requestFrom []) .null helper = .ok specs ∧
        (helper c).Lists packages ∧ List.Forall₂ (Decodes (requestFrom [])) packages specs ∧
          specs.map (·.epoch.text) = ["2", "0"] := by
  intro helper
  have htimed : Timed ({} : Depsolve).timeout :=
    ⟨.whole 300, (Seconds.whole 300).toDouble?.get (by decide), rfl, by simp⟩
  have hplain : ∀ c, (helper c).Plain c := plain_listsEpochs _
  have hepochs : (({} : Depsolve).resolve (requestFrom []) .null helper).toOption.map
      (·.map (·.epoch.text)) = some ["2", "0"] := by
    decide +kernel
  cases h : ({} : Depsolve).resolve (requestFrom []) .null helper with
  | error e =>
    rw [h] at hepochs
    cases hepochs
  | ok specs =>
    rw [h] at hepochs
    obtain ⟨c, packages, -, hlists, hdecodes⟩ :=
      ((resolve_outcome htimed (.inl rfl) hplain).1 specs).1 h
    exact ⟨htimed, hplain, c, packages, specs, rfl, hlists, hdecodes, Option.some.inj hepochs⟩

/-- A helper that ends well and lists a package with an infinite epoch breaks the resolver. -/
theorem resolve_infinity :
    let helper := listsEpochs [",\"epoch\":Infinity"]
    (∀ c, (helper c).Plain c) ∧
      (({} : Depsolve).resolve (requestFrom []) .null helper).mapError Error.failure =
        .error (.broken "cannot convert float infinity to integer") := by
  intro helper
  have hfailure : (match ({} : Depsolve).resolve (requestFrom []) .null helper with
      | .error e => some e.failure
      | .ok _ => none) = some (.broken "cannot convert float infinity to integer") := by
    decide +kernel
  refine ⟨plain_listsEpochs _, ?_⟩
  cases h : ({} : Depsolve).resolve (requestFrom []) .null helper with
  | error e =>
    rw [h] at hfailure
    exact congrArg Except.error (Option.some.inj hfailure)
  | ok specs =>
    rw [h] at hfailure
    cases hfailure

end Resolve.Depsolve
end Imagewright
