import Imagewright.Proofs.Manifest.Filesystems
import Mathlib.Algebra.Order.BigOperators.Group.List
import Mathlib.Algebra.Order.Group.Nat

/-!
# Texts in written manifests

A manifest is written as a value. A text that is in an option of a stage is in some text of that
value.

## Main definitions

* `Value.strings`, `Value.Mentions`: a text is part of some text of a value.
* `Manifest.allStages`: the stages of all pipelines.

## Main statements

* `Value.exists_not_mentions`: no value mentions all texts.
* `Manifest.mem_strings_render`: what an option of a stage says is in the written manifest.
-/
namespace Imagewright

/-! ## Texts in values -/

namespace Value

mutual

/-- All texts of a value, names of fields included. -/
def strings : Value → List String
  | .str s => [s]
  | .list items => stringsOfItems items
  | .obj fields => stringsOfFields fields
  | _ => []

def stringsOfItems : List Value → List String
  | [] => []
  | v :: rest => strings v ++ stringsOfItems rest

def stringsOfFields : List (String × Value) → List String
  | [] => []
  | (key, v) :: rest => key :: strings v ++ stringsOfFields rest

end

/-- A text is part of some text of a value. -/
def Mentions (v : Value) (s : String) : Prop := ∃ text ∈ v.strings, s.toList <:+: text.toList

variable {v : Value} {s text : String}

theorem mem_strings_list {items : List Value} (hv : v ∈ items) (h : text ∈ v.strings) :
    text ∈ (Value.list items).strings := by
  change text ∈ stringsOfItems items
  induction items with
  | nil => cases hv
  | cons w rest ih =>
    rw [stringsOfItems, List.mem_append]
    rcases List.mem_cons.1 hv with rfl | hv
    · exact .inl h
    · exact .inr (ih hv)

theorem mem_strings_obj {fields : List (String × Value)} {key : String} (hv : (key, v) ∈ fields)
    (h : text ∈ v.strings) : text ∈ (Value.obj fields).strings := by
  change text ∈ stringsOfFields fields
  induction fields with
  | nil => cases hv
  | cons f rest ih =>
    rw [stringsOfFields, List.cons_append, List.mem_cons, List.mem_append]
    rcases List.mem_cons.1 hv with rfl | hv
    · exact .inr (.inl h)
    · exact .inr (.inr (ih hv))

theorem mem_strings_at? {w : Value} {key : String} (hv : w.at? key = some v)
    (h : text ∈ v.strings) : text ∈ w.strings := by
  cases w with
  | obj fields => exact mem_strings_obj (Assoc.mem_of_get? hv) h
  | _ => cases hv

theorem mem_strings_listed {w : Value} (hv : v ∈ w.listed) (h : text ∈ v.strings) :
    text ∈ w.strings := by
  cases w with
  | list items => exact mem_strings_list hv h
  | _ => cases hv

/-- A text that is behind another one in some text of a value. -/
theorem mentions_of_mem {name : String} (h : name ++ s ∈ v.strings) : v.Mentions s := by
  refine ⟨_, h, ?_⟩
  rw [String.toList_append]
  exact (List.suffix_append ..).isInfix

/-- No value mentions all texts: none of its own is as long as some text. -/
theorem exists_not_mentions (v : Value) : ∃ s : String, s ≠ "" ∧ ¬ v.Mentions s := by
  let n := (v.strings.map (·.toList.length)).sum
  refine ⟨String.ofList (List.replicate (n + 1) 'A'), ?_, ?_⟩
  · rw [Ne, ← String.toList_eq_nil_iff, String.toList_ofList]
    simp
  · rintro ⟨text, htext, hinfix⟩
    have hle := hinfix.length_le
    have hn : text.toList.length ≤ n := List.le_sum_of_mem (List.mem_map_of_mem htext)
    rw [String.toList_ofList, List.length_replicate] at hle
    omega

end Value

/-! ## Stages of a written manifest -/

namespace Manifest

/-- The stages of all pipelines. -/
def allStages (m : Manifest) : List Stage := m.pipelines.flatMap (·.stages)

section

variable {m : Manifest} {r : Resolution} {nullName text : String}

theorem options_withPackages (s : Stage) (specs : List PackageSpec) :
    (s.withPackages specs).options = s.options := by
  unfold Stage.withPackages
  split <;> rfl

theorem mem_section_ (key : String) {fields : List (String × Value)} (h : fields ≠ []) :
    (key, .obj fields) ∈ Stage.section_ key fields := by
  rw [Stage.section_, if_neg (by simpa using h)]
  exact List.mem_singleton_self _

/-- The texts of an option of a stage are in the written stage. -/
theorem mem_strings_stage {s : Stage} {key : String} {v : Value} (hv : s.option? key = some v)
    (h : text ∈ v.strings) : text ∈ (s.render nullName).strings := by
  have hoption : (key, v) ∈ s.options ++ s.keyed.map fun e => (e.1, e.2.render nullName) :=
    List.mem_append_left _ (Assoc.mem_of_get? hv)
  have hsection := mem_section_ "options" (List.ne_nil_of_mem hoption)
  exact Value.mem_strings_obj
    (List.mem_append_left _ (List.mem_append_left _ (List.mem_append_right _ hsection)))
    (Value.mem_strings_obj hoption h)

/-- The texts of an option of a stage are in the written manifest. -/
theorem mem_strings_render {s : Stage} (hs : s ∈ allStages m) {key : String} {v : Value}
    (hv : s.option? key = some v) (h : text ∈ v.strings) :
    text ∈ (m.render r nullName).strings := by
  obtain ⟨p, hp, hs⟩ := List.mem_flatMap.1 hs
  have hoption : (s.withPackages (specsOf r p)).option? key = some v := by
    rwa [Stage.option?, options_withPackages]
  have hstage : text ∈ ((s.withPackages (specsOf r p)).render nullName).strings :=
    mem_strings_stage hoption h
  have hpipeline : text ∈ (p.render (specsOf r p) nullName).strings := by
    refine Value.mem_strings_obj (List.mem_append_right _ (List.mem_singleton_self _))
      (Value.mem_strings_list (List.mem_map_of_mem hs) hstage)
  have hpipelines := Value.mem_strings_list
    (List.mem_map_of_mem (f := fun p => p.render (specsOf r p) nullName) hp) hpipeline
  exact Value.mem_strings_obj (List.mem_cons_of_mem _ List.mem_cons_self) hpipelines

end

end Manifest
end Imagewright
