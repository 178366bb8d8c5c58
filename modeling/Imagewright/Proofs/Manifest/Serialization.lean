import Imagewright.Manifest.Basic
import Imagewright.Proofs.Assoc

/-!
# What a written manifest depends on

A manifest is written as soon as all pipelines with package sets have packages, and it depends only
on which packages each pipeline has: not on the order in which they were found.

## Main statements

* `Manifest.mem_keys_chains`: which pipelines have package sets.
* `Manifest.missing_eq_nil_iff`: when nothing is missing.
* `Manifest.render_congr`: equal packages give equal manifests.
-/
namespace Imagewright.Manifest

variable {m : Manifest} {r r' : Resolution}

theorem nodup_keys_chains (m : Manifest) : m.chains.keys.Nodup := Assoc.nodup_keys_ofList _

theorem mem_keys_chains {name : String} :
    name ∈ m.chains.keys ↔ ∃ p ∈ m.pipelines, p.chain ≠ [] ∧ p.name = name := by
  simp [chains, Assoc.mem_keys_ofList, and_assoc]

theorem missing_eq_nil_iff :
    m.missing r = [] ↔ ∀ p ∈ m.pipelines, p.chain ≠ [] → r.contains p.name = true := by
  simp [missing]

theorem serialize_of_answered (h : ∀ name ∈ m.chains.keys, r.contains name = true) :
    m.serialize r = .ok (m.render r) := by
  have hmissing : m.missing r = [] :=
    missing_eq_nil_iff.2 fun p hp hc => h p.name (mem_keys_chains.2 ⟨p, hp, hc, rfl⟩)
  simp [serialize, hmissing]

/-- The written manifest looks the packages of its pipelines up, and nothing else. -/
theorem render_congr (h : ∀ p ∈ m.pipelines, r.get? p.name = r'.get? p.name)
    (nullName : String) : m.render r nullName = m.render r' nullName := by
  have hspecs : ∀ p ∈ m.pipelines, specsOf r p = specsOf r' p := by
    intro p hp
    rw [specsOf, specsOf, h p hp]
  have hpipelines : (m.pipelines.map fun p => p.render (specsOf r p) nullName) =
      m.pipelines.map fun p => p.render (specsOf r' p) nullName :=
    List.map_congr_left fun p hp => by rw [hspecs p hp]
  have hdownloads : m.downloads r = m.downloads r' := by
    rw [downloads, downloads, List.flatMap_congr hspecs]
  rw [render, render, hpipelines, hdownloads]

end Imagewright.Manifest
