import Mathlib.Data.List.Forall2

/-!
# Outcomes

How a computation that may fail is taken apart: where a step of it was reached, all steps before it
gave a value. And how it is put together: it gives a value where each of its steps does.

## Main definitions

* `Outcome.Succeeds`: a computation gives a value.
* `Outcome.FailsWith`: every error of a computation has a property.
* `Outcome.Alike`: two computations give related values, or the same error.

## Main statements

* `Outcome.bind_eq_ok`, `Outcome.mapError_eq_ok`: a value comes from values.
* `Outcome.bind_eq_error`, `Outcome.mapError_eq_error`: an error comes from one step.
* `Outcome.mapM_eq_ok`, `Outcome.mapM_eq_error`: a list of values comes from values, item by item,
  and where it fails, its first item without a value does.
* `Outcome.foldlM_invariant`: what each step keeps, a run keeps.
* `Outcome.succeeds_bind`, `Outcome.succeeds_mapM`, `Outcome.succeeds_foldlM`,
  `Outcome.exists_mapM_forall₂`: values from steps.
* `Outcome.failsWith_bind`, `Outcome.failsWith_mapM`: errors from steps.
* `Outcome.alike_bind`: computations are alike whose steps are.
-/
namespace Imagewright.Outcome

variable {ε δ α β : Type}

/-! ## Taking apart -/

theorem bind_eq_ok {x : Except ε α} {f : α → Except ε β} {b : β} :
    x >>= f = .ok b ↔ ∃ a, x = .ok a ∧ f a = .ok b := by
  cases x with
  | error e => simp [bind, Except.bind]
  | ok a => simp [bind, Except.bind]

theorem bind_eq_error {x : Except ε α} {f : α → Except ε β} {e : ε} :
    x >>= f = .error e ↔ x = .error e ∨ ∃ a, x = .ok a ∧ f a = .error e := by
  cases x with
  | error e => simp [bind, Except.bind]
  | ok a => simp [bind, Except.bind]

@[simp] theorem ok_bind (a : α) (f : α → Except ε β) : (Except.ok a >>= f) = f a := rfl

@[simp] theorem error_bind (e : ε) (f : α → Except ε β) : (Except.error e >>= f) = .error e := rfl

@[simp] theorem throw_bind (e : ε) (f : α → Except ε β) :
    ((throw e : Except ε α) >>= f) = .error e := rfl

@[simp] theorem pure_eq_ok (a b : α) : (pure a : Except ε α) = .ok b ↔ a = b := by
  simp [pure, Except.pure]

/-- A check in front of a computation. -/
theorem check_bind_eq_ok {x : Except ε Unit} {k : Except ε α} {a : α} :
    (x >>= fun _ => k) = .ok a ↔ x = .ok () ∧ k = .ok a := by
  rw [bind_eq_ok]
  exact ⟨fun ⟨_, hx, hk⟩ => ⟨hx, hk⟩, fun ⟨hx, hk⟩ => ⟨(), hx, hk⟩⟩

/-- A check in front of a computation that is made on a condition only. -/
theorem ite_check_eq_ok {c : Prop} [Decidable c] {x : Except ε Unit} {k : Except ε α} {a : α} :
    (if c then x >>= fun _ => k else k) = .ok a ↔ (c → x = .ok ()) ∧ k = .ok a := by
  by_cases hc : c <;> simp [hc, check_bind_eq_ok]

/-- A check that finds nothing wrong where it is made. -/
theorem ite_check_of_ok {c : Prop} [Decidable c] {x : Except ε Unit} {k : Except ε α}
    (h : c → x = .ok ()) : (if c then x >>= fun _ => k else k) = k := by
  split
  · next hc => rw [h hc, ok_bind]
  · rfl

/-- A step that is made on a condition only, and otherwise has a result of its own. -/
theorem ite_step_eq_ok {γ : Type} {c : Prop} [Decidable c] {d : γ} {x : Except ε α} {g : α → γ}
    {f : γ → Except ε β} {b : β} :
    (if c then pure d >>= f else x >>= fun a => pure (g a) >>= f) = .ok b ↔
      ∃ r, (if c then d = r else ∃ a, x = .ok a ∧ g a = r) ∧ f r = .ok b := by
  split
  · simp only [bind_eq_ok, pure_eq_ok]
  · simp only [bind_eq_ok, pure_eq_ok]
    grind

theorem forM_eq_ok {f : α → Except ε Unit} {xs : List α} :
    xs.forM f = .ok () ↔ ∀ x ∈ xs, f x = .ok () := by
  induction xs with
  | nil => simp [pure, Except.pure]
  | cons x xs ih =>
    rw [List.forM_eq_forM] at ih ⊢
    simp only [List.forM_cons, check_bind_eq_ok, ih, List.forall_mem_cons]

theorem map_eq_ok {x : Except ε α} {f : α → β} {b : β} :
    f <$> x = .ok b ↔ ∃ a, x = .ok a ∧ f a = b := by
  cases x with
  | error e => simp [Functor.map, Except.map]
  | ok a => simp [Functor.map, Except.map]

theorem map_eq_error {x : Except ε α} {f : α → β} {e : ε} :
    f <$> x = .error e ↔ x = .error e := by
  cases x <;> simp

@[simp] theorem mapError_eq_ok {x : Except ε α} {f : ε → δ} {a : α} :
    x.mapError f = .ok a ↔ x = .ok a := by
  cases x <;> simp [Except.mapError]

theorem mapError_eq_error {x : Except ε α} {f : ε → δ} {d : δ} :
    x.mapError f = .error d ↔ ∃ e, x = .error e ∧ f e = d := by
  cases x <;> simp [Except.mapError]

theorem mapError_bind (x : Except ε α) (f : α → Except ε β) (g : ε → δ) :
    (x >>= f).mapError g = x.mapError g >>= fun a => (f a).mapError g := by
  cases x <;> rfl

theorem mapM_eq_ok {f : α → Except ε β} {xs : List α} {ys : List β} :
    xs.mapM f = .ok ys ↔ List.Forall₂ (fun x y => f x = .ok y) xs ys := by
  induction xs generalizing ys with
  | nil => cases ys <;> simp [pure, Except.pure]
  | cons x xs ih =>
    simp only [List.mapM_cons, bind_eq_ok, pure_eq_ok, ih]
    constructor
    · rintro ⟨y, hy, zs, hzs, rfl⟩
      exact .cons hy hzs
    · rintro (_ | ⟨hy, hzs⟩)
      exact ⟨_, hy, _, hzs, rfl⟩

/-- What stands in the second of two lists in step has a partner in the first. -/
theorem exists_of_mem_forall₂ {R : α → β → Prop} {xs : List α} {ys : List β}
    (h : List.Forall₂ R xs ys) {y : β} (hy : y ∈ ys) : ∃ x ∈ xs, R x y := by
  induction h with
  | nil => cases hy
  | cons hx _ ih =>
    rcases List.mem_cons.1 hy with rfl | hy
    · exact ⟨_, List.mem_cons_self, hx⟩
    · obtain ⟨x, hm, hx⟩ := ih hy
      exact ⟨x, List.mem_cons_of_mem _ hm, hx⟩

/-- A value of a list of values comes from an item. -/
theorem exists_of_mem_mapM {f : α → Except ε β} {xs : List α} {ys : List β}
    (h : xs.mapM f = .ok ys) {y : β} (hy : y ∈ ys) : ∃ x ∈ xs, f x = .ok y :=
  exists_of_mem_forall₂ (mapM_eq_ok.1 h) hy

/-- A list of values is not there because of the first item that has no value. -/
theorem mapM_eq_error {f : α → Except ε β} {xs : List α} {e : ε} :
    xs.mapM f = .error e ↔ ∃ before x after, xs = before ++ x :: after ∧
      (∀ y ∈ before, ∃ b, f y = .ok b) ∧ f x = .error e := by
  induction xs with
  | nil => simp [pure, Except.pure]
  | cons x xs ih =>
    rw [List.mapM_cons]
    constructor
    · intro h
      rcases bind_eq_error.1 h with hx | ⟨y, hy, h⟩
      · exact ⟨[], x, xs, rfl, by simp, hx⟩
      · rcases bind_eq_error.1 h with hxs | ⟨ys, -, h⟩
        · obtain ⟨before, z, after, rfl, hbefore, hz⟩ := ih.1 hxs
          exact ⟨x :: before, z, after, rfl, List.forall_mem_cons.2 ⟨⟨y, hy⟩, hbefore⟩, hz⟩
        · cases h
    · rintro ⟨before, z, after, heq, hbefore, hz⟩
      cases before with
      | nil =>
        obtain ⟨rfl, rfl⟩ := List.cons.inj heq
        rw [hz, error_bind]
      | cons w before =>
        obtain ⟨rfl, rfl⟩ := List.cons.inj heq
        obtain ⟨⟨y, hy⟩, hbefore⟩ := List.forall_mem_cons.1 hbefore
        rw [hy, ok_bind, ih.2 ⟨before, z, after, rfl, hbefore, hz⟩, error_bind]

theorem mapM_congr {f g : α → Except ε β} {xs : List α} (h : ∀ x ∈ xs, f x = g x) :
    xs.mapM f = xs.mapM g := by
  induction xs with
  | nil => rfl
  | cons x xs ih =>
    obtain ⟨hx, hxs⟩ := List.forall_mem_cons.1 h
    rw [List.mapM_cons, List.mapM_cons, hx, ih hxs]

/-- What each step of a run keeps, the run keeps. -/
theorem foldlM_invariant {f : β → α → Except ε β} {xs : List α} {b c : β} (P : β → Prop)
    (h : xs.foldlM f b = .ok c) (hb : P b)
    (step : ∀ x ∈ xs, ∀ b b', P b → f b x = .ok b' → P b') : P c := by
  induction xs generalizing b with
  | nil =>
    obtain rfl := pure_eq_ok _ _ |>.1 h
    exact hb
  | cons x xs ih =>
    rw [List.foldlM_cons, bind_eq_ok] at h
    obtain ⟨b', hx, hrest⟩ := h
    exact ih hrest (step x List.mem_cons_self b b' hb hx)
      fun y hy => step y (List.mem_cons_of_mem _ hy)

/-! ## Putting together -/

/-- A computation gives a value. -/
def Succeeds (x : Except ε α) : Prop := ∃ a, x = .ok a

theorem not_succeeds {x : Except ε α} : ¬ Succeeds x ↔ ∃ e, x = .error e := by
  cases x with
  | error e => simp [Succeeds]
  | ok a => simp [Succeeds]

theorem succeeds_ok (a : α) : Succeeds (.ok a : Except ε α) := ⟨a, rfl⟩

theorem succeeds_pure (a : α) : Succeeds (pure a : Except ε α) := ⟨a, rfl⟩

theorem succeeds_bind {x : Except ε α} {f : α → Except ε β} (hx : Succeeds x)
    (hf : ∀ a, x = .ok a → Succeeds (f a)) : Succeeds (x >>= f) := by
  obtain ⟨a, rfl⟩ := hx
  exact hf a rfl

theorem succeeds_mapError {x : Except ε α} (f : ε → δ) (hx : Succeeds x) :
    Succeeds (x.mapError f) := by
  obtain ⟨a, rfl⟩ := hx
  exact ⟨a, rfl⟩

theorem succeeds_mapM {f : α → Except ε β} {xs : List α} (h : ∀ x ∈ xs, Succeeds (f x)) :
    Succeeds (xs.mapM f) := by
  induction xs with
  | nil => exact succeeds_pure _
  | cons x xs ih =>
    obtain ⟨hx, hxs⟩ := List.forall_mem_cons.1 h
    rw [List.mapM_cons]
    exact succeeds_bind hx fun _ _ => succeeds_bind (ih hxs) fun _ _ => succeeds_pure _

/-- A list of values is there where each item has a value, and it is in step with the items. -/
theorem exists_mapM_forall₂ {f : α → Except ε β} {xs : List α} {R : α → β → Prop}
    (h : ∀ x ∈ xs, ∃ y, f x = .ok y ∧ R x y) :
    ∃ ys, xs.mapM f = .ok ys ∧ List.Forall₂ R xs ys := by
  induction xs with
  | nil => exact ⟨[], rfl, .nil⟩
  | cons x xs ih =>
    obtain ⟨⟨y, hy, hR⟩, hxs⟩ := List.forall_mem_cons.1 h
    obtain ⟨ys, hys, hRs⟩ := ih hxs
    exact ⟨y :: ys, by rw [List.mapM_cons, hy, ok_bind, hys]; rfl, .cons hR hRs⟩

theorem succeeds_foldlM {f : β → α → Except ε β} {xs : List α}
    (h : ∀ x ∈ xs, ∀ b, Succeeds (f b x)) (b : β) : Succeeds (xs.foldlM f b) := by
  induction xs generalizing b with
  | nil => exact succeeds_pure _
  | cons x xs ih =>
    obtain ⟨hx, hxs⟩ := List.forall_mem_cons.1 h
    rw [List.foldlM_cons]
    exact succeeds_bind (hx b) fun b' _ => ih hxs b'

/-! ## Errors -/

/-- Every error of a computation has a property. -/
def FailsWith (P : ε → Prop) (x : Except ε α) : Prop := ∀ e, x = .error e → P e

section FailsWith

variable {P : ε → Prop}

theorem failsWith_ok (a : α) : FailsWith P (.ok a : Except ε α) := by
  intro e h
  cases h

theorem failsWith_error {e : ε} (h : P e) : FailsWith P (.error e : Except ε α) := by
  intro e' h'
  exact Except.error.inj h' ▸ h

theorem failsWith_bind {x : Except ε α} {f : α → Except ε β} (hx : FailsWith P x)
    (hf : ∀ a, x = .ok a → FailsWith P (f a)) : FailsWith P (x >>= f) := by
  intro e h
  rcases bind_eq_error.1 h with h | ⟨a, ha, h⟩
  · exact hx e h
  · exact hf a ha e h

/-- A check in front of a computation that is made on a condition only. -/
theorem failsWith_ite_check {c : Prop} [Decidable c] {x : Except ε Unit} {k : Except ε α}
    (hx : FailsWith P x) (hk : FailsWith P k) :
    FailsWith P (if c then x >>= fun _ => k else k) := by
  split
  · exact failsWith_bind hx fun _ _ => hk
  · exact hk

theorem failsWith_mapM {f : α → Except ε β} {xs : List α} (h : ∀ x ∈ xs, FailsWith P (f x)) :
    FailsWith P (xs.mapM f) := by
  induction xs with
  | nil => exact failsWith_ok []
  | cons x xs ih =>
    obtain ⟨hx, hxs⟩ := List.forall_mem_cons.1 h
    rw [List.mapM_cons]
    exact failsWith_bind hx fun _ _ => failsWith_bind (ih hxs) fun _ _ => failsWith_ok _

theorem failsWith_forM {f : α → Except ε Unit} {xs : List α} (h : ∀ x ∈ xs, FailsWith P (f x)) :
    FailsWith P (xs.forM f) := by
  induction xs with
  | nil => exact failsWith_ok ()
  | cons x xs ih =>
    obtain ⟨hx, hxs⟩ := List.forall_mem_cons.1 h
    rw [List.forM_eq_forM] at ih ⊢
    exact failsWith_bind hx fun _ _ => ih hxs

end FailsWith

/-! ## Two computations -/

/-- Two computations give values that are related, or fail with the same error. -/
inductive Alike (R : α → β → Prop) : Except ε α → Except ε β → Prop where
  | ok {a : α} {b : β} (h : R a b) : Alike R (.ok a) (.ok b)
  | error (e : ε) : Alike R (.error e) (.error e)

section Alike

variable {γ α' β' : Type} {R : α → β → Prop} {x : Except ε α} {y : Except ε β}

theorem alike_refl {R : α → α → Prop} (h : ∀ a, R a a) (x : Except ε α) : Alike R x x := by
  cases x with
  | ok a => exact .ok (h a)
  | error e => exact .error e

theorem Alike.mono {S : α → β → Prop} (h : Alike R x y) (hRS : ∀ a b, R a b → S a b) :
    Alike S x y := by
  cases h with
  | ok h => exact .ok (hRS _ _ h)
  | error e => exact .error e

theorem alike_bind {S : α' → β' → Prop} {f : α → Except ε α'} {g : β → Except ε β'}
    (h : Alike R x y) (hf : ∀ a b, R a b → Alike S (f a) (g b)) : Alike S (x >>= f) (y >>= g) := by
  cases h with
  | ok h => exact hf _ _ h
  | error e => exact .error e

/-- A step that both computations make. -/
theorem alike_bind_same {S : α' → β' → Prop} {x : Except ε γ} {f : γ → Except ε α'}
    {g : γ → Except ε β'} (hf : ∀ a, Alike S (f a) (g a)) : Alike S (x >>= f) (x >>= g) :=
  alike_bind (alike_refl (R := Eq) (fun _ => rfl) x) fun a _ h => h ▸ hf a

theorem alike_map {S : α' → β' → Prop} {f : α → α'} {g : β → β'} (h : Alike R x y)
    (hf : ∀ a b, R a b → S (f a) (g b)) : Alike S (f <$> x) (g <$> y) := by
  cases h with
  | ok h => exact .ok (hf _ _ h)
  | error e => exact .error e

theorem alike_ite {c : Prop} [Decidable c] {x' : Except ε α} {y' : Except ε β}
    (h : c → Alike R x y) (h' : ¬c → Alike R x' y') :
    Alike R (if c then x else x') (if c then y else y') := by
  split
  · next hc => exact h hc
  · next hc => exact h' hc

theorem alike_mapError (f : ε → δ) (h : Alike R x y) : Alike R (x.mapError f) (y.mapError f) := by
  cases h with
  | ok h => exact .ok h
  | error e => exact .error (f e)

/-- What is alike to the same is alike. -/
theorem Alike.join {S : α' → β → Prop} {T : α → α' → Prop} {z : Except ε α'}
    (hx : Alike R x y) (hz : Alike S z y) (h : ∀ a b c, R a b → S c b → T a c) :
    Alike T x z := by
  cases hx with
  | ok ha => cases hz with | ok hc => exact .ok (h _ _ _ ha hc)
  | error e => cases hz; exact .error e

end Alike

end Imagewright.Outcome
