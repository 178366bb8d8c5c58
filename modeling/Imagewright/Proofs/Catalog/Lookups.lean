import Imagewright.Proofs.Catalog.Registry

/-!
# What look-ups find

An architecture to which image types are added one by one knows each of them by its name and by its
further names. A new name is compared with the names that are there, but not with the further names,
so a name can be shadowed: it is also a further name of another type, and a look-up takes it for
that. Nothing else goes wrong, in an architecture or in the index of a registry.

## Main definitions

* `Catalog.Architecture.Built`: image types are added to an empty architecture.
* `Catalog.Shadowed`: a name that is a further name, so that no type can be found by it as its own.
* `Catalog.Architecture.Resolves`: what the look-ups in an architecture find.

## Main statements

* `Catalog.Architecture.Built.registered`: what an architecture holds after a run of additions.
* `Catalog.Registry.get?_index`: what the index of a registry holds.
* `Catalog.lookups_of_built`: which look-ups find what was added, and where the index and the walk
  agree.
-/
namespace Imagewright

namespace Catalog

/-! ## Architectures to which image types are added -/

/-- The image types are added one after another to an architecture that has none, and none of them
is refused. -/
inductive Architecture.Built : List Entry → Architecture → Prop where
  | fresh (p : Platform) : Built [] { platform := p }
  | add {es : List Entry} {e : Entry} {a b : Architecture} (ha : Built es a)
    (hb : a.add e = .ok b) : Built (es ++ [e]) b

/-- The names and further names that an architecture holds. -/
structure Architecture.Registered (es : List Entry) (a : Architecture) : Prop where
  entries_eq : a.entries = es.map fun e => (e.imageType.name, e)
  nodup_names : a.entries.keys.Nodup
  aliases_eq : a.aliases =
    es.flatMap fun e => e.imageType.aliases.map fun s => (s, e.imageType.name)
  nodup_aliases : a.aliases.keys.Nodup
  /-- No type has its name as a further one. -/
  own : ∀ e ∈ es, e.imageType.name ∉ e.imageType.aliases

/-- Further names are new ones, and are added at the end. -/
theorem Architecture.aliases_addAliases {a b : Architecture} {name : String} {ss : List String}
    (h : a.addAliases name ss = .ok b) (ha : a.aliases.keys.Nodup) :
    b.aliases = a.aliases ++ ss.map (·, name) ∧ b.aliases.keys.Nodup ∧
      ∀ s ∈ ss, s ∉ a.entries.keys := by
  unfold addAliases at h
  induction ss generalizing a with
  | nil =>
    obtain rfl := (Outcome.pure_eq_ok _ _).1 h
    simp [ha]
  | cons s rest ih =>
    rw [List.foldlM_cons, Outcome.bind_eq_ok] at h
    obtain ⟨c, hc, hrest⟩ := h
    split at hc
    · cases hc
    · next hnew =>
      obtain rfl := Except.ok.inj hc
      rw [Bool.or_eq_true, not_or, Assoc.contains_iff, Assoc.contains_iff] at hnew
      obtain ⟨heq, hnodup, hnames⟩ := ih hrest (Assoc.nodup_keys_set ha s name)
      refine ⟨?_, hnodup, List.forall_mem_cons.2 ⟨hnew.2, hnames⟩⟩
      rw [heq, Assoc.set_of_notMem hnew.1]
      simp

/-- An addition keeps what an architecture holds. -/
theorem Architecture.Registered.add {es : List Entry} {e : Entry} {a b : Architecture}
    (ha : a.Registered es) (hb : a.add e = .ok b) : b.Registered (es ++ [e]) := by
  unfold Architecture.add at hb
  simp only at hb
  split at hb
  · cases hb
  · next hnew =>
    rw [Assoc.contains_iff] at hnew
    obtain ⟨-, hentries⟩ := Architecture.addAliases_eq_ok hb
    obtain ⟨haliases, hnodup, hown⟩ := Architecture.aliases_addAliases hb ha.nodup_aliases
    have hset := Assoc.set_of_notMem hnew e
    refine ⟨?_, ?_, ?_, hnodup, ?_⟩
    · rw [hentries, hset, ha.entries_eq]
      simp
    · rw [hentries]
      exact Assoc.nodup_keys_set ha.nodup_names _ _
    · rw [haliases, ha.aliases_eq]
      simp
    · intro f hf
      rcases List.mem_append.1 hf with hf | hf
      · exact ha.own f hf
      · obtain rfl := List.mem_singleton.1 hf
        intro hmem
        refine hown _ hmem ?_
        simp [hset, Assoc.keys]

/-- What an architecture holds after a run of additions. -/
theorem Architecture.Built.registered {es : List Entry} {a : Architecture} (h : a.Built es) :
    a.Registered es := by
  induction h with
  | fresh p => exact ⟨rfl, List.nodup_nil, rfl, List.nodup_nil, fun _ he => (nomatch he)⟩
  | add _ hb ih => exact ih.add hb

/-- An architecture tells which types were added to it, and in which order. -/
theorem Architecture.Built.unique {es fs : List Entry} {a : Architecture} (h : a.Built es)
    (h' : a.Built fs) : es = fs := by
  have heq := h.registered.entries_eq.symm.trans h'.registered.entries_eq
  simpa [Function.comp_def] using congrArg (List.map (·.2)) heq

/-! ## Look-ups in an architecture -/

/-- A name is a further name of one of the types. A type of that name cannot be found by it. -/
def Shadowed (es : List Entry) (name : String) : Prop := ∃ f ∈ es, name ∈ f.imageType.aliases

namespace Architecture.Registered

variable {es : List Entry} {a : Architecture} {e f : Entry} {name : String}

theorem get?_entries (ha : a.Registered es) (he : e ∈ es) :
    a.entries.get? e.imageType.name = some e := by
  rw [Assoc.get?_eq_some_iff ha.nodup_names, ha.entries_eq]
  exact List.mem_map_of_mem he

theorem eq_of_name_eq (ha : a.Registered es) (he : e ∈ es) (hf : f ∈ es)
    (h : e.imageType.name = f.imageType.name) : e = f :=
  Option.some.inj ((ha.get?_entries he).symm.trans (h ▸ ha.get?_entries hf))

theorem get?_aliases (ha : a.Registered es) (he : e ∈ es) (hname : name ∈ e.imageType.aliases) :
    a.aliases.get? name = some e.imageType.name := by
  rw [Assoc.get?_eq_some_iff ha.nodup_aliases, ha.aliases_eq]
  exact List.mem_flatMap.2 ⟨e, he, List.mem_map_of_mem hname⟩

theorem get?_aliases_eq_none (ha : a.Registered es) (hname : ¬Shadowed es name) :
    a.aliases.get? name = none := by
  rw [Assoc.get?_eq_none_iff, ha.aliases_eq]
  simp only [Assoc.keys, List.map_flatMap, List.map_map, List.mem_flatMap, List.mem_map,
    Function.comp_apply]
  rintro ⟨f, hf, s, hs, rfl⟩
  exact hname ⟨f, hf, hs⟩

/-- A further name leads to the type that it belongs to. -/
theorem get_alias (ha : a.Registered es) (he : e ∈ es) (hname : name ∈ e.imageType.aliases) :
    a.get name = .ok e := by
  rw [get, ha.get?_aliases he hname, Option.getD_some, ha.get?_entries he]

/-- A name that is no further name leads to the type that it belongs to. -/
theorem get_name (ha : a.Registered es) (he : e ∈ es)
    (hname : ¬Shadowed es e.imageType.name) : a.get e.imageType.name = .ok e := by
  rw [get, ha.get?_aliases_eq_none hname, Option.getD_none, ha.get?_entries he]

/-- A name leads to its own type exactly if it is not shadowed. -/
theorem get_name_iff (ha : a.Registered es) (he : e ∈ es) :
    a.get e.imageType.name = .ok e ↔ ¬Shadowed es e.imageType.name := by
  refine ⟨?_, ha.get_name he⟩
  rintro h ⟨f, hf, hname⟩
  rw [ha.get_alias hf hname] at h
  obtain rfl := Except.ok.inj h
  exact ha.own f hf hname

theorem typeNames_perm (ha : a.Registered es) :
    a.typeNames.Perm (es.map (·.imageType.name)) := by
  refine (Text.sortBy_perm id _).trans ?_
  simp [Assoc.keys, ha.entries_eq, Function.comp_def]

end Architecture.Registered

/-- What the look-ups in an architecture find of the types that were added to it. -/
structure Architecture.Resolves (a : Architecture) (es : List Entry) : Prop where
  listed : a.typeNames.Perm (es.map (·.imageType.name))
  further : ∀ e ∈ es, ∀ s ∈ e.imageType.aliases, a.get s = .ok e
  own : ∀ e ∈ es, a.get e.imageType.name = .ok e ↔ ¬Shadowed es e.imageType.name

theorem Architecture.Built.resolves {es : List Entry} {a : Architecture} (h : a.Built es) :
    a.Resolves es :=
  have ha := h.registered
  ⟨ha.typeNames_perm, fun _ he _ => ha.get_alias he, fun _ => ha.get_name_iff⟩

/-! ## The index of a registry -/

/-- An image type of an architecture of a release. -/
def Entry.target (d : Distribution) (a : Architecture) (e : Entry) : Target :=
  ⟨d.release, a.platform, e.imageType, e.table⟩

/-- What the index holds for a name: what a further name stands for, looked up as a name again, and
for any other name its type. -/
def Architecture.indexed? (a : Architecture) (name : String) : Option Entry :=
  ((a.aliases.get? name).bind fun type => (a.get type).toOption).or
    (if name ∈ a.typeNames then (a.get name).toOption else none)

namespace Registry

/-- The last entry for a name, among entries for names that differ. -/
theorem last?_filterMap (d : Distribution) (a : Architecture) (arch name : String)
    {types : Assoc String String} (h : types.keys.Nodup) :
    Assoc.last? (types.filterMap fun e => (a.get e.2).toOption.map fun x =>
        ((d.release.name, arch, e.1), Target.mk d.release a.platform x.imageType x.table))
      (d.release.name, arch, name) =
      ((types.get? name).bind fun type => (a.get type).toOption).map (Entry.target d a) := by
  induction types with
  | nil => rfl
  | cons e rest ih =>
    obtain ⟨k, type⟩ := e
    obtain ⟨hk, hrest⟩ := List.nodup_cons.1 h
    have ih := ih hrest
    by_cases hkey : k = name
    · subst hkey
      rw [Assoc.get?_eq_none_iff.2 hk] at ih
      cases hg : (a.get type).toOption with
      | none => simp [hg, ih, Assoc.get?]
      | some x => simp [hg, ih, Assoc.get?, Assoc.last?_cons, Entry.target]
    · cases hg : (a.get type).toOption with
      | none => simp [hg, ih, Assoc.get?, hkey]
      | some x => simp [hg, ih, Assoc.get?, Assoc.last?_cons, hkey]

theorem get?_map_self {names : List String} {name : String} :
    Assoc.get? (names.map fun n => (n, n)) name =
      if name ∈ names then some name else none := by
  induction names with
  | nil => rfl
  | cons n rest ih =>
    by_cases h : n = name
    · subst h
      simp [Assoc.get?]
    · simp [Assoc.get?, h, Ne.symm h, ih]

/-- The index entries of an architecture. -/
theorem last?_indexArchitecture {es : List Entry} {a : Architecture} (ha : a.Registered es)
    (d : Distribution) (arch name : String) :
    Assoc.last? (indexArchitecture d arch a) (d.release.name, arch, name) =
      (a.indexed? name).map (Entry.target d a) := by
  have hnames : (Assoc.keys (a.typeNames.map fun n => (n, n))).Nodup := by
    have hsorted : a.typeNames.Nodup := (Text.sortBy_perm id _).nodup_iff.2 ha.nodup_names
    simpa [Assoc.keys, Function.comp_def] using hsorted
  have hlisted := last?_filterMap d a arch name hnames
  rw [List.filterMap_map, get?_map_self] at hlisted
  have hfurther := last?_filterMap d a arch name ha.nodup_aliases
  simp only [indexArchitecture, Assoc.last?_append, Architecture.indexed?, Option.map_or]
  rw [hfurther]
  refine congrArg _ (hlisted.trans ?_)
  split <;> rfl

/-- The index entries of an architecture are for that architecture. -/
theorem key_of_mem_indexArchitecture {d : Distribution} {arch : String} {a : Architecture}
    {e : (String × String × String) × Target} (h : e ∈ indexArchitecture d arch a) :
    e.1.1 = d.release.name ∧ e.1.2.1 = arch := by
  simp only [indexArchitecture, List.mem_append, List.mem_filterMap, Option.map_eq_some_iff] at h
  obtain ⟨_, -, _, -, rfl⟩ | ⟨_, -, _, -, rfl⟩ := h
  · exact ⟨rfl, rfl⟩
  · exact ⟨rfl, rfl⟩

/-- The index entries of a distribution. -/
theorem last?_indexDistribution {d : Distribution}
    (hd : ∀ a ∈ d.architectures.values, ∃ es, a.Registered es) (arch name : String) :
    Assoc.last? (indexDistribution d) (d.release.name, arch, name) =
      (d.architectures.get? arch).bind fun a => (a.indexed? name).map (Entry.target d a) := by
  have hmem : arch ∈ d.archNames ↔ d.architectures.get? arch ≠ none := by
    rw [ne_eq, Assoc.get?_eq_none_iff, not_not]
    exact (Text.sortBy_perm id _).mem_iff
  refine (Assoc.last?_flatMap (c := arch) _ fun x hx => ?_).trans ?_
  · refine Assoc.last?_eq_none fun e he => beq_eq_false_iff_ne.2 fun hkey => hx ?_
    split at he
    · obtain ⟨-, harch⟩ := key_of_mem_indexArchitecture he
      rw [← harch, hkey]
    · cases he
  · cases hget : d.architectures.get? arch with
    | none => rw [if_neg (hmem.not.2 (not_not.2 hget))]; rfl
    | some a =>
      obtain ⟨es, ha⟩ := hd a (Assoc.mem_values_of_get? hget)
      rw [if_pos (hmem.2 (by simp [hget]))]
      exact last?_indexArchitecture ha d arch name

/-- What the index of a registry holds. -/
def Indexed (r : Registry) : Prop :=
  (∀ name d, r.distributions.get? name = some d → d.release.name = name) ∧
    ∀ distribution arch name, r.index.get? (distribution, arch, name) =
      (r.distributions.get? distribution).bind fun d =>
        (d.architectures.get? arch).bind fun a => (a.indexed? name).map (Entry.target d a)

/-- A distribution that is added adds its own part of the index. -/
theorem Indexed.add {r r' : Registry} {d : Distribution} (hr : r.Indexed)
    (hd : ∀ a ∈ d.architectures.values, ∃ es, a.Registered es) (h : r.add d = .ok r') :
    r'.Indexed := by
  unfold Registry.add at h
  split at h
  · cases h
  · next hnew =>
    rw [Assoc.contains_iff, ← Assoc.get?_eq_none_iff] at hnew
    obtain rfl := Except.ok.inj h
    refine ⟨fun name c hc => ?_, fun distribution arch name => ?_⟩
    · by_cases hname : d.release.name = name
      · subst hname
        rw [Assoc.get?_set_self] at hc
        obtain rfl := Option.some.inj hc
        rfl
      · rw [Assoc.get?_set_ne _ _ hname] at hc
        exact hr.1 name c hc
    · rw [Assoc.get?_foldl_set, hr.2]
      by_cases hname : d.release.name = distribution
      · subst hname
        rw [last?_indexDistribution hd, hnew, Assoc.get?_set_self]
        simp
      · have hother : Assoc.last? (indexDistribution d) (distribution, arch, name) = none := by
          refine Assoc.last?_eq_none fun e he => beq_eq_false_iff_ne.2 fun hkey => hname ?_
          obtain ⟨x, -, he⟩ := List.mem_flatMap.1 he
          split at he
          · obtain ⟨hdist, -⟩ := key_of_mem_indexArchitecture he
            rw [← hdist, hkey]
          · cases he
        rw [hother, Assoc.get?_set_ne _ _ hname]
        rfl

/-- What the index of a registry holds, for every name. -/
theorem get?_index {ds : List Distribution} {r : Registry} (h : ofDistributions ds = .ok r)
    (hds : ∀ d ∈ ds, ∀ a ∈ d.architectures.values, ∃ es, a.Registered es) : r.Indexed :=
  Outcome.foldlM_invariant Indexed h ⟨fun _ _ hd => (nomatch hd), fun _ _ _ => rfl⟩
    fun d hd _ _ hr => hr.add (hds d hd)

end Registry

/-! ## The index and the walk -/

theorem Registry.distribution_eq_ok {r : Registry} {name : String} {d : Distribution} :
    r.distribution name = .ok d ↔ r.distributions.get? name = some d := by
  unfold Registry.distribution
  cases r.distributions.get? name <;> simp

theorem Distribution.get_eq_ok {d : Distribution} {name : String} {a : Architecture} :
    d.get name = .ok a ↔ d.architectures.get? name = some a := by
  unfold Distribution.get
  cases d.architectures.get? name <;> simp

namespace Architecture.Registered

variable {es : List Entry} {a : Architecture} {e : Entry} {name : String}

/-- For a name that is no further name the index holds what a look-up finds. -/
theorem indexed?_of_not_shadowed (ha : a.Registered es) (hname : ¬Shadowed es name) :
    a.indexed? name = (a.get name).toOption := by
  rw [indexed?, ha.get?_aliases_eq_none hname, Option.bind_none, Option.none_or]
  split
  · rfl
  · next hlisted =>
    have hkey : a.entries.get? name = none := by
      rw [Assoc.get?_eq_none_iff]
      exact fun hmem => hlisted ((Text.sortBy_perm id _).mem_iff.2 hmem)
    rw [get, ha.get?_aliases_eq_none hname, Option.getD_none, hkey]
    rfl

/-- For a further name the index holds what its type's name leads to. -/
theorem indexed?_of_mem_aliases (ha : a.Registered es) (he : e ∈ es)
    (hname : name ∈ e.imageType.aliases) :
    ∃ f ∈ es, a.get e.imageType.name = .ok f ∧ a.indexed? name = some f := by
  obtain ⟨f, hf, hget⟩ : ∃ f ∈ es, a.get e.imageType.name = .ok f := by
    by_cases hown : Shadowed es e.imageType.name
    · obtain ⟨f, hf, hfurther⟩ := hown
      exact ⟨f, hf, ha.get_alias hf hfurther⟩
    · exact ⟨e, he, ha.get_name he hown⟩
  refine ⟨f, hf, hget, ?_⟩
  simp [indexed?, ha.get?_aliases he hname, hget, Except.toOption]

/-- The index holds for a name what a look-up finds, unless the name is a further name of a type
whose own name is shadowed. -/
theorem indexed?_eq_iff (ha : a.Registered es) :
    a.indexed? name = (a.get name).toOption ↔
      ∀ e ∈ es, name ∈ e.imageType.aliases → ¬Shadowed es e.imageType.name := by
  constructor
  · intro h e he hname
    obtain ⟨f, -, hget, hindexed⟩ := ha.indexed?_of_mem_aliases he hname
    rw [hindexed, ha.get_alias he hname] at h
    obtain rfl := Option.some.inj h
    exact (ha.get_name_iff he).1 hget
  · intro h
    by_cases hname : Shadowed es name
    · obtain ⟨e, he, hfurther⟩ := hname
      obtain ⟨f, -, hget, hindexed⟩ := ha.indexed?_of_mem_aliases he hfurther
      rw [ha.get_name he (h e he hfurther)] at hget
      obtain rfl := Except.ok.inj hget
      rw [hindexed, ha.get_alias he hfurther]
      rfl
    · exact ha.indexed?_of_not_shadowed hname

end Architecture.Registered

section

variable {r : Registry} {d : Distribution} {a : Architecture} {es : List Entry}
  {distribution arch name : String}

/-- Where no architecture is found, nothing is looked up in the index. -/
theorem Registry.Indexed.get_eq_walk (hr : r.Indexed)
    (h : ∀ d, r.distributions.get? distribution = some d → d.architectures.get? arch = none) :
    r.get distribution arch name = r.walk distribution arch name := by
  have hnone : r.index.get? (distribution, arch, name) = none := by
    rw [hr.2]
    cases hd : r.distributions.get? distribution with
    | none => rfl
    | some d => simp [h d hd]
  rw [Registry.get, hnone]

/-- In an architecture that is found, the index agrees with the walk unless the name is a further
name of a type whose own name is shadowed. -/
theorem Registry.Indexed.get_eq_walk_iff (hr : r.Indexed)
    (hd : r.distributions.get? distribution = some d) (ha : d.architectures.get? arch = some a)
    (hes : a.Registered es) :
    r.get distribution arch name = r.walk distribution arch name ↔
      ∀ e ∈ es, name ∈ e.imageType.aliases → ¬Shadowed es e.imageType.name := by
  have hindex : r.index.get? (distribution, arch, name) =
      (a.indexed? name).map (Entry.target d a) := by
    rw [hr.2, hd, Option.bind_some, ha, Option.bind_some]
  have hwalk : r.walk distribution arch name = (a.get name).map (Entry.target d a) := by
    simp only [Registry.walk, Registry.distribution, hd, Distribution.get, ha, Outcome.ok_bind]
    cases a.get name <;> rfl
  constructor
  · intro h e he hname
    obtain ⟨f, hf, hget, hindexed⟩ := hes.indexed?_of_mem_aliases he hname
    rw [Registry.get, hindex, hindexed, hwalk, hes.get_alias he hname] at h
    have himage : f.imageType = e.imageType := congrArg (·.imageType) (Except.ok.inj h)
    obtain rfl := hes.eq_of_name_eq hf he (congrArg (·.name) himage)
    exact (hes.get_name_iff he).1 hget
  · intro h
    have hindexed := hes.indexed?_eq_iff.2 h
    rw [Registry.get, hindex, hindexed, hwalk]
    cases a.get name <;> rfl

end

/-- Every type is found by its further names, and by its name exactly if that is not shadowed. The
index and the walk give the same answer, or fail alike, for all names but the further names of types
whose own name is shadowed. -/
theorem lookups_of_built {ds : List Distribution} {r : Registry}
    (hr : Registry.ofDistributions ds = .ok r)
    (hds : ∀ d ∈ ds, ∀ a ∈ d.architectures.values, ∃ es, a.Built es) :
    (∀ d ∈ ds, ∀ a ∈ d.architectures.values, ∀ es, a.Built es → a.Resolves es) ∧
      ∀ distribution arch name,
        r.get distribution arch name = r.walk distribution arch name ↔
          ∀ d a es, r.distribution distribution = .ok d → d.get arch = .ok a → a.Built es →
            ∀ e ∈ es, name ∈ e.imageType.aliases → ¬Shadowed es e.imageType.name := by
  refine ⟨fun _ _ _ _ _ hes => hes.resolves, fun distribution arch name => ?_⟩
  have hindexed := Registry.get?_index hr fun d hd a ha =>
    (hds d hd a ha).imp fun _ hes => hes.registered
  simp only [Registry.distribution_eq_ok, Distribution.get_eq_ok]
  by_cases hfound : ∃ d a, r.distributions.get? distribution = some d ∧
      d.architectures.get? arch = some a
  · obtain ⟨d, a, hd, ha⟩ := hfound
    have hmem : d ∈ ds := (Registry.from_ofDistributions hr).1 d (Assoc.mem_values_of_get? hd)
    obtain ⟨es, hes⟩ := hds d hmem a (Assoc.mem_values_of_get? ha)
    constructor
    · intro h c b fs hc hb hfs
      exact (hindexed.get_eq_walk_iff hc hb hfs.registered).1 h
    · intro h
      exact (hindexed.get_eq_walk_iff hd ha hes.registered).2 (h d a es hd ha hes)
  · push Not at hfound
    refine iff_of_true (hindexed.get_eq_walk fun d hd => ?_) fun d a _ hd ha => absurd ha ?_
    · exact Option.eq_none_iff_forall_ne_some.2 fun a => hfound d a hd
    · exact hfound d a hd

/-! ## Two types and a name between them -/

namespace Sample

/-- An image type with a name and further names, and with nothing else of note. -/
def entry (name : String) (aliases : List String) (h : isTypeName name = true) : Entry where
  imageType := {
    name, aliases
    filename := "image.tar"
    mimeType := "application/x-tar"
    family := .container
    exportFormat := "tar"
    arches := ["x86_64"]
    name_ok := h
    arches_nonempty := by decide
    size_pos := by decide }

def platform : Platform := { name := "x86_64", legacyBoot := true, uefiBoot := true }

def release : Release where
  name := "sample-1"
  product := "Sample"
  releasever := "1"
  modulePlatformId := "platform:s1"
  runner := "org.osbuild.linux"
  mountpointPolicy := .standard
  buildPackageSet := fun _ _ => {}

/-- The type `ami` with a further name, and the type `vhd` with one. -/
def apart : List Entry := [entry "ami" ["aws"] (by decide), entry "vhd" ["azure"] (by decide)]

/-- The further name of the type `ami` is the name of the type `vhd`. -/
def shadowing : List Entry := [entry "ami" ["vhd"] (by decide), entry "vhd" ["azure"] (by decide)]

/-- The architecture that the types are added to, empty if one is refused. -/
def architecture (es : List Entry) : Architecture :=
  match es.foldlM Architecture.add { platform := platform } with
  | .ok a => a
  | .error _ => { platform := platform }

def distribution (es : List Entry) : Distribution := ⟨release, [("x86_64", architecture es)]⟩

end Sample

open Sample in
/-- Two types without a name in common. -/
theorem lookups_of_built_apart : ∃ r, Registry.ofDistributions [distribution apart] = .ok r ∧
    (∀ d ∈ [distribution apart], ∀ a ∈ d.architectures.values, ∃ es, a.Built es) ∧
    (architecture apart).Resolves apart ∧
    ∀ name, r.get "sample-1" "x86_64" name = r.walk "sample-1" "x86_64" name := by
  have hbuilt : (architecture apart).Built apart := .add (.add (.fresh platform) rfl) rfl
  obtain ⟨r, hr⟩ : ∃ r, Registry.ofDistributions [distribution apart] = .ok r := ⟨_, rfl⟩
  have hds : ∀ d ∈ [distribution apart], ∀ a ∈ d.architectures.values, ∃ es, a.Built es := by
    intro d hd a ha
    obtain rfl := List.mem_singleton.1 hd
    obtain rfl : a = architecture apart := List.mem_singleton.1 ha
    exact ⟨apart, hbuilt⟩
  obtain ⟨hresolves, hagree⟩ := lookups_of_built hr hds
  refine ⟨r, hr, hds, hresolves _ (List.mem_singleton.2 rfl) _ (List.mem_singleton.2 rfl) _ hbuilt,
    fun name => (hagree _ _ name).2 fun d a es hd ha hes => ?_⟩
  have hfrom : d ∈ [distribution apart] := (Registry.from_ofDistributions hr).1 d
    (Assoc.mem_values_of_get? (Registry.distribution_eq_ok.1 hd))
  obtain rfl := List.mem_singleton.1 hfrom
  obtain rfl : a = architecture apart := List.mem_singleton.1
    (Assoc.mem_values_of_get? (Distribution.get_eq_ok.1 ha))
  obtain rfl := hes.unique hbuilt
  -- neither `ami` nor `vhd` is one of the further names `aws` and `azure`
  rintro e he - ⟨f, hf, hshadowed⟩
  revert e f
  decide

open Sample in
/-- A type whose name is a further name of a type that was added before it: its name leads to the
other type, and for its own further name the index and the walk disagree. -/
theorem lookups_shadowing : ∃ r, Registry.ofDistributions [distribution shadowing] = .ok r ∧
    (architecture shadowing).Built shadowing ∧
    "vhd" ∈ (architecture shadowing).typeNames ∧
    (∃ e, (architecture shadowing).get "vhd" = .ok e ∧ e.imageType.name = "ami") ∧
    (∃ t, r.get "sample-1" "x86_64" "azure" = .ok t ∧ t.imageType.name = "ami") ∧
    ∃ t, r.walk "sample-1" "x86_64" "azure" = .ok t ∧ t.imageType.name = "vhd" := by
  refine ⟨_, rfl, .add (.add (.fresh platform) rfl) rfl, by decide, ⟨_, rfl, rfl⟩, ⟨_, rfl, rfl⟩,
    _, rfl, rfl⟩

end Catalog
end Imagewright
