/-!
# Association lists

Finite maps that keep the order in which their keys came. A new value for a key stays at the place
of the old one.

## Main definitions

* `Assoc.set`: gives a key a value.
* `Assoc.get?`: the value of a key.
* `Assoc.keys`: the keys in their order.
-/
namespace Imagewright

/-- A finite map as the list of its entries. -/
abbrev Assoc (α β : Type) := List (α × β)

namespace Assoc

variable {α β : Type} [BEq α]

def get? : Assoc α β → α → Option β
  | [], _ => none
  | (k, v) :: rest, key => if k == key then some v else get? rest key

/-- Gives a key a value: at its place if it is there, else at the end. -/
def set : Assoc α β → α → β → Assoc α β
  | [], key, v => [(key, v)]
  | (k, w) :: rest, key, v => if k == key then (k, v) :: rest else (k, w) :: set rest key v

def contains (m : Assoc α β) (key : α) : Bool := (m.get? key).isSome

omit [BEq α] in
def keys (m : Assoc α β) : List α := m.map (·.1)

/-- The map of a list of entries, of which the last one for a key counts. -/
def ofList (entries : List (α × β)) : Assoc α β := entries.foldl (fun m e => m.set e.1 e.2) []

@[simp] theorem get?_nil (key : α) : get? ([] : Assoc α β) key = none := rfl

@[simp] theorem get?_set_self [LawfulBEq α] (m : Assoc α β) (key : α) (v : β) :
    (m.set key v).get? key = some v := by
  induction m with
  | nil => simp [set, get?]
  | cons e rest ih =>
    obtain ⟨k, w⟩ := e
    by_cases h : k == key <;> simp [set, get?, h, ih]

@[simp] theorem get?_set_ne [LawfulBEq α] (m : Assoc α β) {key other : α} (v : β)
    (h : key ≠ other) : (m.set key v).get? other = m.get? other := by
  induction m with
  | nil => simp [set, get?, h]
  | cons e rest ih =>
    obtain ⟨k, w⟩ := e
    by_cases hk : k = key
    · subst hk; simp [set, get?, h]
    · by_cases ho : k = other
      · subst ho; simp [set, get?, hk]
      · simp [set, get?, hk, ho, ih]

/-- A new key comes last; the order of the others stays. -/
theorem keys_set [LawfulBEq α] (m : Assoc α β) (key : α) (v : β) :
    (m.set key v).keys = if m.contains key then m.keys else m.keys ++ [key] := by
  induction m with
  | nil => simp [set, keys, contains, get?]
  | cons e rest ih =>
    obtain ⟨k, w⟩ := e
    by_cases hk : k = key
    · subst hk; simp [set, keys, contains, get?]
    · simp only [set, keys, contains, get?, hk, beq_iff_eq, if_false, List.map_cons] at ih ⊢
      by_cases hm : (get? rest key).isSome <;> simp [hm, ih]

end Assoc
end Imagewright
