import Imagewright.Proofs.Outcome
import Imagewright.Raised

/-!
# Computations whose tags nobody looks at

Whether a computation gives a value, and which error it ends with, does not depend on the tags.

## Main statements

* `Raised.untagged_eq_ok`, `Raised.untagged_eq_error`: values and errors without their tags.
* `Raised.untagged_bind`, `Raised.untagged_mapError`: leaving out the tags of steps and handlers.
* `Raised.untagged_bind_congr`, `Raised.untagged_mapM_congr`: computations that differ in their
  tags, step by step.
-/
namespace Imagewright.Raised

variable {ε δ α β : Type}

@[simp] theorem untagged_ok (a : α) : untagged (.ok a : Except (Raised ε) α) = .ok a := rfl

@[simp] theorem untagged_pure (a : α) : untagged (pure a : Except (Raised ε) α) = pure a := rfl

@[simp] theorem untagged_error (r : Raised ε) :
    untagged (.error r : Except (Raised ε) α) = .error r.error := rfl

theorem untagged_eq_ok {x : Except (Raised ε) α} {a : α} : untagged x = .ok a ↔ x = .ok a :=
  Outcome.mapError_eq_ok

theorem untagged_eq_error {x : Except (Raised ε) α} {e : ε} :
    untagged x = .error e ↔ ∃ tag, x = .error ⟨e, tag⟩ := by
  rw [untagged, Outcome.mapError_eq_error]
  constructor
  · rintro ⟨⟨_, tag⟩, hx, rfl⟩
    exact ⟨tag, hx⟩
  · rintro ⟨tag, hx⟩
    exact ⟨_, hx, rfl⟩

theorem untagged_bind (x : Except (Raised ε) α) (f : α → Except (Raised ε) β) :
    untagged (x >>= f) = untagged x >>= fun a => untagged (f a) :=
  Outcome.mapError_bind x f _

theorem untagged_map (x : Except (Raised ε) α) (f : α → β) :
    untagged (f <$> x) = f <$> untagged x := by
  cases x <;> rfl

/-- What a handler makes of an error counts, and not the tag that it puts in. -/
theorem untagged_mapError (x : Except δ α) (f : δ → Raised ε) :
    untagged (x.mapError f) = x.mapError fun e => (f e).error := by
  cases x <;> rfl

theorem untagged_mapError_map (x : Except (Raised δ) α) (f : δ → ε) :
    untagged (x.mapError (map f)) = (untagged x).mapError f := by
  cases x <;> rfl

/-! ## Computations that differ in their tags -/

section

variable {x y : Except (Raised ε) α} {f g : α → Except (Raised ε) β}

theorem untagged_bind_congr (hx : untagged x = untagged y)
    (hf : ∀ a, untagged (f a) = untagged (g a)) : untagged (x >>= f) = untagged (y >>= g) := by
  simp only [untagged_bind, hx, hf]

theorem untagged_mapM_congr (h : ∀ a, untagged (f a) = untagged (g a)) (xs : List α) :
    untagged (xs.mapM f) = untagged (xs.mapM g) := by
  induction xs with
  | nil => rfl
  | cons a xs ih =>
    rw [List.mapM_cons, List.mapM_cons]
    exact untagged_bind_congr (h a) fun _ => untagged_bind_congr ih fun _ => rfl

theorem untagged_forM_congr {f g : α → Except (Raised ε) Unit}
    (h : ∀ a, untagged (f a) = untagged (g a)) (xs : List α) :
    untagged (xs.forM f) = untagged (xs.forM g) := by
  induction xs with
  | nil => rfl
  | cons a xs ih =>
    simp only [List.forM_eq_forM] at ih ⊢
    rw [List.forM_cons, List.forM_cons]
    exact untagged_bind_congr (h a) fun _ => ih

/-- A check in front of a computation that is made on a condition only. -/
theorem untagged_ite_check_congr {c : Prop} [Decidable c] {x y : Except (Raised ε) Unit}
    {k l : Except (Raised ε) α} (hx : untagged x = untagged y) (hk : untagged k = untagged l) :
    untagged (if c then x >>= fun _ => k else k) =
      untagged (if c then y >>= fun _ => l else l) := by
  split
  · exact untagged_bind_congr hx fun _ => hk
  · exact hk

end

end Imagewright.Raised
