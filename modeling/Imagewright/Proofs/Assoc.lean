import Imagewright.Assoc
import Mathlib.Data.List.Induction
import Mathlib.Data.List.Nodup

/-!
# Keys and values of association lists

## Main definitions

* `Assoc.values`: the values of all keys.
* `Assoc.last?`: the value of the last entry for a key.
* `Assoc.lastNamed?`: the last of the items of a name.

## Main statements

* `Assoc.mem_values_set`: where the values come from.
* `Assoc.nodup_keys_set`, `Assoc.nodup_keys_ofList`: no key comes twice.
* `Assoc.get?_eq_some_iff`, `Assoc.get?_ofList`: a look-up finds exactly the entries, and of the
  entries that a map is made from the last one.
* `Assoc.ofList_of_nodup`: entries whose keys differ are a map as they are.
* `Assoc.set_set`, `Assoc.get?_set`, `Assoc.get?_filter`: look-ups in changed maps.
* `Assoc.filter_key`: the entries for a key.
* `Assoc.get?_eq_of_perm_filter`: the order of entries does not count.
* `Assoc.get?_foldl_set`: where keys are set one after another, the last entry for a key counts.
-/
namespace Imagewright

namespace Assoc

variable {α β γ : Type}

def values (m : Assoc α β) : List β := m.map (·.2)

variable [BEq α] [LawfulBEq α]

theorem mem_values_of_get? {m : Assoc α β} {key : α} {v : β} (h : m.get? key = some v) :
    v ∈ m.values := by
  induction m with
  | nil => cases h
  | cons e rest ih =>
    obtain ⟨k, w⟩ := e
    by_cases hk : k = key
    · simp_all [get?, values]
    · simp only [get?, beq_iff_eq, hk, if_false] at h
      exact List.mem_cons_of_mem _ (ih h)

theorem mem_values_set {m : Assoc α β} {key : α} {v w : β} (h : w ∈ (m.set key v).values) :
    w ∈ m.values ∨ w = v := by
  induction m with
  | nil => exact .inr (List.mem_singleton.1 h)
  | cons e rest ih =>
    obtain ⟨k, x⟩ := e
    by_cases hk : k = key
    · simp only [set, hk, beq_self_eq_true, if_true, values, List.map_cons, List.mem_cons] at h ⊢
      exact h.elim .inr fun h => .inl (.inr h)
    · simp only [set, beq_iff_eq, hk, if_false, values, List.map_cons, List.mem_cons] at h ⊢
      exact h.elim (fun h => .inl (.inl h)) fun h => (ih h).imp_left .inr

theorem contains_iff {m : Assoc α β} {key : α} : m.contains key = true ↔ key ∈ m.keys := by
  induction m with
  | nil => simp [contains, keys]
  | cons e rest ih =>
    obtain ⟨k, v⟩ := e
    by_cases hk : k = key
    · simp [contains, keys, get?, hk]
    · simpa [contains, keys, get?, hk, Ne.symm hk] using ih

theorem nodup_keys_set {m : Assoc α β} (h : m.keys.Nodup) (key : α) (v : β) :
    (m.set key v).keys.Nodup := by
  rw [keys_set]
  split
  · exact h
  · next hkey =>
    refine List.nodup_append.2 ⟨h, by simp, fun k hk k' hk' => ?_⟩
    rw [List.mem_singleton.1 hk']
    rintro rfl
    exact hkey (contains_iff.2 hk)

theorem get?_eq_none_iff {m : Assoc α β} {key : α} : m.get? key = none ↔ key ∉ m.keys := by
  rw [← contains_iff, contains, Option.not_isSome_iff_eq_none]

theorem mem_of_get? {m : Assoc α β} {key : α} {v : β} (h : m.get? key = some v) :
    (key, v) ∈ m := by
  induction m with
  | nil => cases h
  | cons e rest ih =>
    obtain ⟨k, w⟩ := e
    by_cases hk : k = key
    · simp_all [get?]
    · simp only [get?, beq_iff_eq, hk, if_false] at h
      exact List.mem_cons_of_mem _ (ih h)

/-- Where no key comes twice, a look-up finds exactly the entries. -/
theorem get?_eq_some_iff {m : Assoc α β} (hm : m.keys.Nodup) {key : α} {v : β} :
    m.get? key = some v ↔ (key, v) ∈ m := by
  refine ⟨mem_of_get?, fun h => ?_⟩
  induction m with
  | nil => cases h
  | cons e rest ih =>
    obtain ⟨k, w⟩ := e
    obtain ⟨hk, hrest⟩ := List.nodup_cons.1 hm
    rcases List.mem_cons.1 h with heq | hmem
    · simp_all [get?]
    · have hkey : key ∈ keys rest := List.mem_map_of_mem (f := (·.1)) hmem
      have hne : k ≠ key := by
        rintro rfl
        exact hk hkey
      simp only [get?, beq_iff_eq, hne, if_false]
      exact ih hrest hmem

theorem mem_keys_set {m : Assoc α β} {key k : α} {v : β} :
    k ∈ (m.set key v).keys ↔ k ∈ m.keys ∨ k = key := by
  rw [keys_set]
  split
  · next h =>
    refine ⟨.inl, fun hk => hk.elim id ?_⟩
    rintro rfl
    exact contains_iff.1 h
  · simp

theorem nodup_keys_ofList (entries : List (α × β)) : (ofList entries).keys.Nodup :=
  List.foldlRecOn (motive := fun m : Assoc α β => m.keys.Nodup) entries _ List.nodup_nil
    fun _ h e _ => nodup_keys_set h e.1 e.2

theorem mem_keys_ofList {entries : List (α × β)} {key : α} :
    key ∈ (ofList entries).keys ↔ key ∈ entries.map (·.1) := by
  have hfold : ∀ m : Assoc α β, key ∈ (entries.foldl (fun m e => m.set e.1 e.2) m).keys ↔
      key ∈ m.keys ∨ key ∈ entries.map (·.1) := by
    induction entries with
    | nil => simp
    | cons e rest ih =>
      intro m
      rw [List.foldl_cons, ih, mem_keys_set, List.map_cons, List.mem_cons, or_assoc]
  rw [ofList, hfold]
  simp [keys]

theorem set_of_notMem {m : Assoc α β} {key : α} (h : key ∉ m.keys) (v : β) :
    m.set key v = m ++ [(key, v)] := by
  induction m with
  | nil => rfl
  | cons e rest ih =>
    obtain ⟨k, w⟩ := e
    have hk : k ≠ key := fun he => h (he ▸ List.mem_cons_self)
    have hrest : key ∉ keys rest := fun hmem => h (List.mem_cons_of_mem _ hmem)
    simp [set, hk, ih hrest]

omit [LawfulBEq α] in
theorem ofList_concat (entries : List (α × β)) (e : α × β) :
    ofList (entries ++ [e]) = (ofList entries).set e.1 e.2 := by
  rw [ofList, List.foldl_append]
  rfl

/-- Entries whose keys differ are a map as they are. -/
theorem ofList_of_nodup {entries : List (α × β)} (h : (entries.map (·.1)).Nodup) :
    ofList entries = entries := by
  induction entries using List.reverseRecOn with
  | nil => rfl
  | append_singleton rest e ih =>
    rw [List.map_append, List.nodup_append] at h
    obtain ⟨hrest, -, hne⟩ := h
    have he : e.1 ∉ keys rest := fun hmem => hne _ hmem _ (by simp) rfl
    rw [ofList_concat, ih hrest, set_of_notMem he]

/-! ## Look-ups in changed maps -/

omit [LawfulBEq α] in
theorem get?_append (m m' : Assoc α β) (key : α) :
    get? (m ++ m') key = (m.get? key).or (m'.get? key) := by
  induction m with
  | nil => rfl
  | cons e rest ih => cases h : e.1 == key <;> simp [get?, h, ih]

omit [BEq α] [LawfulBEq α] in
theorem keys_map (m : Assoc α β) (f : β → γ) : keys (m.map fun e => (e.1, f e.2)) = m.keys := by
  simp [keys]

omit [LawfulBEq α] in
theorem get?_map (m : Assoc α β) (f : β → γ) (key : α) :
    get? (m.map fun e => (e.1, f e.2)) key = (m.get? key).map f := by
  induction m with
  | nil => rfl
  | cons e rest ih => cases h : e.1 == key <;> simp [get?, h, ih]

/-- The second of two values for a key counts. -/
theorem set_set (m : Assoc α β) (key : α) (v w : β) :
    (m.set key v).set key w = m.set key w := by
  induction m with
  | nil => simp [set]
  | cons e rest ih => cases h : e.1 == key <;> simp [set, h, ih]

theorem get?_set [DecidableEq α] (m : Assoc α β) (key other : α) (v : β) :
    (m.set key v).get? other = if key = other then some v else m.get? other := by
  split
  · next h => rw [h, get?_set_self]
  · next h => rw [get?_set_ne _ _ h]

theorem get?_filter {m : Assoc α β} (h : m.keys.Nodup) (p : β → Bool) (key : α) :
    get? (m.filter fun e => p e.2) key = (m.get? key).filter p := by
  induction m with
  | nil => rfl
  | cons e rest ih =>
    obtain ⟨hkey, hrest⟩ := List.nodup_cons.1 h
    by_cases hk : e.1 = key
    · have hnone : get? rest key = none := get?_eq_none_iff.2 (hk ▸ hkey)
      cases hp : p e.2 <;> simp [get?, hk, hp, ih hrest, hnone, Option.filter]
    · cases hp : p e.2 <;> simp [get?, hk, hp, ih hrest]

/-- The entries for a key. -/
theorem filter_key {m : Assoc α β} (h : m.keys.Nodup) (key : α) :
    m.filter (·.1 == key) = (m.get? key).toList.map fun v => (key, v) := by
  induction m with
  | nil => rfl
  | cons e rest ih =>
    obtain ⟨hkey, hrest⟩ := List.nodup_cons.1 h
    by_cases hk : e.1 = key
    · subst hk
      have hnone : get? rest e.1 = none := get?_eq_none_iff.2 hkey
      have hbehind : rest.filter (·.1 == e.1) = [] := by rw [ih hrest, hnone]; rfl
      rw [List.filter_cons_of_pos (by simp), hbehind]
      simp [get?]
    · simp [get?, hk, ih hrest]

/-- Where the entries for some keys are the same in any order, so is what is found for them. -/
theorem get?_eq_of_perm_filter {m m' : Assoc α β} (hm : m.keys.Nodup) (hm' : m'.keys.Nodup)
    {p : α → Bool} (h : (m.filter fun e => p e.1).Perm (m'.filter fun e => p e.1)) {key : α}
    (hkey : p key = true) : m.get? key = m'.get? key := by
  refine Option.ext fun v => ?_
  have hmem := h.mem_iff (a := (key, v))
  rw [get?_eq_some_iff hm, get?_eq_some_iff hm']
  simpa [hkey] using hmem

/-! ## Entries of which the last one counts -/

/-- The value of the last entry for a key. -/
def last? (entries : List (α × β)) (key : α) : Option β :=
  (entries.reverse.find? (·.1 == key)).map (·.2)

omit [LawfulBEq α] in
theorem last?_append (entries others : List (α × β)) (key : α) :
    last? (entries ++ others) key = (last? others key).or (last? entries key) := by
  simp only [last?, List.reverse_append, List.find?_append]
  cases others.reverse.find? (·.1 == key) <;> simp

omit [LawfulBEq α] in
theorem last?_cons (e : α × β) (entries : List (α × β)) (key : α) :
    last? (e :: entries) key =
      (last? entries key).or (if e.1 == key then some e.2 else none) := by
  rw [← List.singleton_append, last?_append]
  cases h : e.1 == key <;> simp [last?, h]

omit [LawfulBEq α] in
theorem last?_eq_none {entries : List (α × β)} {key : α}
    (h : ∀ e ∈ entries, (e.1 == key) = false) : last? entries key = none := by
  rw [last?, Option.map_eq_none_iff, List.find?_eq_none]
  simpa using h

/-- Where keys are set one after another, the last entry for a key counts. -/
theorem get?_foldl_set (entries : List (α × β)) (m : Assoc α β) (key : α) :
    (entries.foldl (fun m e => m.set e.1 e.2) m).get? key =
      (last? entries key).or (m.get? key) := by
  induction entries generalizing m with
  | nil => rfl
  | cons e rest ih =>
    rw [List.foldl_cons, ih, last?_cons]
    by_cases h : e.1 = key
    · subst h
      simp
    · simp [h]

omit [LawfulBEq α] in
/-- Of the parts of a list of entries, only one has entries for a key. -/
theorem last?_flatMap [DecidableEq γ] {f : γ → List (α × β)} {key : α} {c : γ}
    (parts : List γ) (h : ∀ x, x ≠ c → last? (f x) key = none) :
    last? (parts.flatMap f) key = if c ∈ parts then last? (f c) key else none := by
  induction parts with
  | nil => rfl
  | cons x rest ih =>
    rw [List.flatMap_cons, last?_append, ih]
    by_cases hx : x = c
    · subst hx
      by_cases hrest : x ∈ rest <;> simp [hrest]
    · simp [h x hx, Ne.symm hx]

/-- Of the entries for a key the last one counts. -/
theorem get?_ofList (entries : List (α × β)) (key : α) :
    (ofList entries).get? key = (entries.reverse.find? (·.1 == key)).map (·.2) := by
  rw [ofList, get?_foldl_set, get?_nil, Option.or_none, last?]

/-- The last of the items of a name. -/
def lastNamed? (name : γ → α) (items : List γ) (key : α) : Option γ :=
  items.reverse.find? (name · == key)

omit [LawfulBEq α] in
theorem last?_map (name : γ → α) (f : γ → β) (items : List γ) (key : α) :
    last? (items.map fun x => (name x, f x)) key = (lastNamed? name items key).map f := by
  rw [last?, ← List.map_reverse, List.find?_map, Option.map_map]
  rfl

theorem mem_of_lastNamed? {name : γ → α} {items : List γ} {key : α} {x : γ}
    (h : lastNamed? name items key = some x) : x ∈ items ∧ name x = key :=
  ⟨List.mem_reverse.1 (List.mem_of_find?_eq_some h), by simpa using List.find?_some h⟩

/-- An item has a last one of its name. -/
theorem exists_lastNamed? (name : γ → α) {items : List γ} {x : γ} (h : x ∈ items) :
    ∃ y ∈ items, name y = name x ∧ lastNamed? name items (name x) = some y := by
  have hsome : (lastNamed? name items (name x)).isSome := by
    rw [lastNamed?, List.find?_isSome]
    exact ⟨x, List.mem_reverse.2 h, beq_self_eq_true _⟩
  obtain ⟨y, hy⟩ := Option.isSome_iff_exists.1 hsome
  exact ⟨y, (mem_of_lastNamed? hy).1, (mem_of_lastNamed? hy).2, hy⟩

end Assoc

end Imagewright
