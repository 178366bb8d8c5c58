import Imagewright.Catalog.Registry
import Imagewright.Proofs.Assoc
import Imagewright.Proofs.Outcome

/-!
# Where the image types of a registry come from

Whatever a look-up finds, in the index or by the walk, was added to an architecture of one of the
distributions that the registry was built from.

## Main definitions

* `Catalog.Distribution.Offers`: an image type with its architecture and its release is one of a
  distribution.

## Main statements

* `Catalog.Registry.offers_of_get`: what is found is offered.
-/
namespace Imagewright.Catalog

/-! ## Architectures and distributions -/

/-- An image type with its architecture and its release is one of a distribution. -/
def Distribution.Offers (d : Distribution) (t : Target) : Prop :=
  ∃ a ∈ d.architectures.values, ∃ e ∈ a.entries.values,
    t = ⟨d.release, a.platform, e.imageType, e.table⟩

theorem Architecture.mem_of_get {a : Architecture} {name : String} {e : Entry}
    (h : a.get name = .ok e) : e ∈ a.entries.values := by
  unfold get at h
  split at h
  · next e' he =>
    obtain rfl := Except.ok.inj h
    exact Assoc.mem_values_of_get? he
  · cases h

theorem Distribution.offers_of_get {d : Distribution} {arch type : String} {a : Architecture}
    {e : Entry} (ha : d.architectures.get? arch = some a) (he : a.get type = .ok e) :
    d.Offers ⟨d.release, a.platform, e.imageType, e.table⟩ :=
  ⟨a, Assoc.mem_values_of_get? ha, e, a.mem_of_get he, rfl⟩

/-- Further names leave the image types of an architecture as they are. -/
theorem Architecture.addAliases_eq_ok {a b : Architecture} {name : String} {aliases : List String}
    (h : a.addAliases name aliases = .ok b) :
    b.platform = a.platform ∧ b.entries = a.entries := by
  refine Outcome.foldlM_invariant (fun b => b.platform = a.platform ∧ b.entries = a.entries) h
    ⟨rfl, rfl⟩ fun shorthand _ c c' hc hstep => ?_
  split at hstep
  · cases hstep
  · obtain rfl := Except.ok.inj hstep
    exact hc

/-- An architecture has the image types that it had, and the one that was added. -/
theorem Architecture.add_eq_ok {a b : Architecture} {e : Entry} (h : a.add e = .ok b) :
    b.platform = a.platform ∧ ∀ x ∈ b.entries.values, x ∈ a.entries.values ∨ x = e := by
  unfold add at h
  simp only at h
  split at h
  · cases h
  · obtain ⟨hp, he⟩ := addAliases_eq_ok h
    exact ⟨hp, fun x hx => Assoc.mem_values_set (he ▸ hx)⟩

theorem Distribution.add_eq_ok {d d' : Distribution} {a : Architecture} (h : d.add a = .ok d') :
    d'.release = d.release ∧
      ∀ x ∈ d'.architectures.values, x ∈ d.architectures.values ∨ x = a := by
  unfold add at h
  split at h
  · cases h
  · obtain rfl := Except.ok.inj h
    exact ⟨rfl, fun x hx => Assoc.mem_values_set hx⟩

/-! ## The registry -/

namespace Registry

theorem offers_of_mem_index {d : Distribution} {e : (String × String × String) × Target}
    (h : e ∈ indexDistribution d) : d.Offers e.2 := by
  obtain ⟨arch, -, h⟩ := List.mem_flatMap.1 h
  split at h
  · next a ha =>
    simp only [indexArchitecture, List.mem_append, List.mem_filterMap, Option.map_eq_some_iff]
      at h
    have key : ∀ {type : String} {f : Entry}, (a.get type).toOption = some f →
        d.Offers ⟨d.release, a.platform, f.imageType, f.table⟩ := by
      intro type f hf
      cases hg : a.get type with
      | error _ => simp [hg, Except.toOption] at hf
      | ok f' =>
        simp only [hg, Except.toOption, Option.some.injEq] at hf
        exact hf ▸ d.offers_of_get ha hg
    rcases h with ⟨_, -, f, hf, rfl⟩ | ⟨_, -, f, hf, rfl⟩
    · exact key hf
    · exact key hf
  · cases h

/-- All that a registry knows is offered by one of some distributions. -/
def From (ds : List Distribution) (r : Registry) : Prop :=
  (∀ d ∈ r.distributions.values, d ∈ ds) ∧
    ∀ t ∈ r.index.values, ∃ d ∈ ds, d.Offers t

theorem from_add {ds : List Distribution} {r r' : Registry} {d : Distribution} (hd : d ∈ ds)
    (hr : r.From ds) (h : r.add d = .ok r') : r'.From ds := by
  unfold add at h
  split at h
  · cases h
  · obtain rfl := Except.ok.inj h
    refine ⟨fun x hx => ?_, ?_⟩
    · rcases Assoc.mem_values_set hx with hx | rfl
      · exact hr.1 _ hx
      · exact hd
    · -- the part of the index that is new comes from the distribution that is new
      refine List.foldlRecOn (motive := fun index => ∀ t ∈ Assoc.values index, ∃ d ∈ ds, d.Offers t)
        (indexDistribution d) _ hr.2 ?_
      intro index hindex e he t ht
      rcases Assoc.mem_values_set ht with ht | rfl
      · exact hindex t ht
      · exact ⟨d, hd, offers_of_mem_index he⟩

theorem from_ofDistributions {ds : List Distribution} {r : Registry}
    (h : ofDistributions ds = .ok r) : r.From ds :=
  Outcome.foldlM_invariant (From ds) h
    ⟨fun _ hx => absurd hx List.not_mem_nil, fun _ hx => absurd hx List.not_mem_nil⟩
    fun _ hd _ _ => from_add hd

/-- What a look-up finds is offered by one of the distributions that the registry was built from. -/
theorem offers_of_get {ds : List Distribution} {r : Registry} (hr : r.From ds)
    {distribution arch name : String} {t : Target} (h : r.get distribution arch name = .ok t) :
    ∃ d ∈ ds, d.Offers t := by
  unfold get at h
  split at h
  · next t' ht =>
    obtain rfl := Except.ok.inj h
    exact hr.2 _ (Assoc.mem_values_of_get? ht)
  · simp only [walk, Outcome.bind_eq_ok, Outcome.pure_eq_ok] at h
    obtain ⟨d, hd, a, ha, e, he, rfl⟩ := h
    unfold Registry.distribution at hd
    unfold Distribution.get at ha
    split at hd
    · next d' hd' =>
      obtain rfl := Except.ok.inj hd
      split at ha
      · next a' ha' =>
        obtain rfl := Except.ok.inj ha
        exact ⟨d', hr.1 _ (Assoc.mem_values_of_get? hd'), d'.offers_of_get ha' he⟩
      · cases ha
    · cases hd

end Registry
end Imagewright.Catalog
