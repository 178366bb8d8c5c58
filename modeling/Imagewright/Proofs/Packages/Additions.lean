import Imagewright.Packages.Chains
import Imagewright.Proofs.Assoc
import Imagewright.Proofs.FirstOccurrences

/-!
# Chains as logs of additions

Chains are made by adding sets and by binding repositories, in any order. What is made can be read
off the log of these changes: each set stands at the place where it was added, and has the
repositories that were bound after it, as far as they serve its pipeline.

## Main definitions

* `PackageSetChains.Change`, `PackageSetChains.ofLog`: changes, and what a log of them makes.
* `PackageSetChains.servedBy`: the repositories that a log binds to a pipeline.
* `PackageSetChains.setsIn`: the sets of a pipeline as its log tells.

## Main statements

* `PackageSetChains.chain_foldl_change`: what a log does to chains that are there.
* `PackageSetChains.bind_bind`: binding twice is binding once.
* `PackageSetChains.ofLog_refines`: all that is asked of chains is told by their log.
-/
namespace Imagewright

namespace PackageSet

/-- A set with further repositories behind its own. -/
def withMore (s : PackageSet) (repositories : List Repository) : PackageSet :=
  { s with repositories := s.repositories ++ repositories }

@[simp] theorem withMore_nil (s : PackageSet) : s.withMore [] = s := by simp [withMore]

@[simp] theorem withMore_withMore (s : PackageSet) (repositories others : List Repository) :
    (s.withMore repositories).withMore others = s.withMore (repositories ++ others) := by
  simp [withMore]

end PackageSet

namespace PackageSetChains

open FirstOccurrences (eraseDups_concat)
open PackageSet (withMore)

/-! ## Logs -/

/-- One change of chains. -/
inductive Change where
  | add (pipeline : String) (s : PackageSet)
  | bind (repositories : List Repository)

namespace Change

/-- The repositories that a change binds to a pipeline. -/
def servedBy (pipeline : String) : Change → List Repository
  | .add _ _ => []
  | .bind repositories => repositories.filter (·.appliesTo pipeline)

/-- The pipeline that a change adds a set to. -/
def addedTo? : Change → Option String
  | .add pipeline _ => some pipeline
  | .bind _ => none

end Change

def change (c : PackageSetChains) : Change → PackageSetChains
  | .add pipeline s => c.add pipeline s
  | .bind repositories => c.bind repositories

/-- What a log of changes makes, from its first change on. -/
def ofLog (log : List Change) : PackageSetChains := log.foldl change {}

/-- The repositories that a log binds to a pipeline. -/
def servedBy (log : List Change) (pipeline : String) : List Repository :=
  log.flatMap (·.servedBy pipeline)

/-- The sets of a pipeline as a log tells. Each stands where it was added, with the repositories
that are bound to the pipeline later on. -/
def setsIn : List Change → String → List PackageSet
  | [], _ => []
  | .add other s :: later, pipeline =>
    if other = pipeline then s.withMore (servedBy later pipeline) :: setsIn later pipeline
    else setsIn later pipeline
  | .bind _ :: later, pipeline => setsIn later pipeline

/-! ## Chains -/

variable {c : PackageSetChains} {log : List Change} {pipeline : String}
  {repositories others : List Repository}

theorem bindSet_eq (s : PackageSet) :
    bindSet repositories pipeline s = s.withMore (repositories.filter (·.appliesTo pipeline)) := rfl

theorem chain_add (c : PackageSetChains) (other : String) (s : PackageSet) (pipeline : String) :
    (c.add other s).chain pipeline =
      c.chain pipeline ++ if other = pipeline then [s] else [] := by
  split
  · next h => rw [h, chain_add_self]
  · next h => rw [chain_add_ne c s h, List.append_nil]

theorem chain_bind (c : PackageSetChains) (repositories : List Repository) (pipeline : String) :
    (c.bind repositories).chain pipeline =
      (c.chain pipeline).map (bindSet repositories pipeline) := by
  have hget : ∀ entries : Assoc String (List PackageSet),
      Assoc.get? (entries.map fun e => (e.1, e.2.map (bindSet repositories e.1))) pipeline =
        (entries.get? pipeline).map (·.map (bindSet repositories pipeline)) := by
    intro entries
    induction entries with
    | nil => rfl
    | cons e entries ih =>
      obtain ⟨key, sets⟩ := e
      by_cases hkey : key = pipeline
      · simp [Assoc.get?, hkey]
      · simpa [Assoc.get?, hkey] using ih
  rw [chain, bind, hget, chain]
  cases c.entries.get? pipeline <;> rfl

/-- A log puts its sets behind those that are there, and binds its repositories to these. -/
theorem chain_foldl_change (log : List Change) (c : PackageSetChains) (pipeline : String) :
    (log.foldl change c).chain pipeline =
      (c.chain pipeline).map (·.withMore (servedBy log pipeline)) ++ setsIn log pipeline := by
  induction log generalizing c with
  | nil => simp [servedBy, setsIn]
  | cons first later ih =>
    rw [List.foldl_cons, ih]
    cases first with
    | add other s =>
      rw [change, chain_add, setsIn]
      have hserved : servedBy (.add other s :: later) pipeline = servedBy later pipeline := rfl
      split <;> simp [hserved]
    | bind repositories =>
      rw [change, chain_bind, setsIn, List.map_map]
      congr 1
      refine List.map_congr_left fun s _ => ?_
      rw [Function.comp_apply, bindSet_eq, PackageSet.withMore_withMore]
      rfl

/-- Each pipeline is listed once, where a set is first added to it. -/
theorem pipelines_ofLog (log : List Change) :
    (ofLog log).pipelines = (log.filterMap Change.addedTo?).eraseDups := by
  induction log using List.reverseRecOn with
  | nil => rfl
  | append_singleton log last ih =>
    have hlast : ofLog (log ++ [last]) = (ofLog log).change last := by
      rw [ofLog, List.foldl_append]
      rfl
    rw [hlast, List.filterMap_append]
    cases last with
    | add other s =>
      have hmem : (ofLog log).entries.contains other = true ↔
          other ∈ log.filterMap Change.addedTo? := by
        rw [Assoc.contains_iff, ← List.mem_eraseDups (l := log.filterMap _), ← ih]
        rfl
      have hkeys : ((ofLog log).add other s).pipelines =
          if (ofLog log).entries.contains other then (ofLog log).pipelines
          else (ofLog log).pipelines ++ [other] := Assoc.keys_set ..
      rw [change, hkeys, ih]
      simp only [hmem]
      exact (eraseDups_concat _ other).symm
    | bind repositories =>
      have hkeys : ((ofLog log).bind repositories).pipelines = (ofLog log).pipelines := by
        simp [pipelines, bind, Assoc.keys]
      rw [change, hkeys, ih]
      exact congrArg List.eraseDups (List.append_nil _).symm

/-! ## Pipelines with sets -/

/-- Every pipeline that is there has sets. -/
def Filled (c : PackageSetChains) : Prop := ∀ sets ∈ Assoc.values c.entries, sets ≠ []

theorem Filled.change (h : c.Filled) (step : Change) : (c.change step).Filled := by
  cases step with
  | add other s =>
    intro sets hsets
    rcases Assoc.mem_values_set hsets with hsets | rfl
    · exact h sets hsets
    · simp
  | bind repositories =>
    intro sets hsets
    simp only [PackageSetChains.change, bind, Assoc.values, List.map_map, List.mem_map] at hsets
    obtain ⟨e, he, rfl⟩ := hsets
    have hne := h e.2 (List.mem_map_of_mem he)
    simpa using hne

theorem filled_ofLog (log : List Change) : (ofLog log).Filled := by
  refine List.foldlRecOn (motive := Filled) log change ?_ fun _ h step _ => h.change step
  intro sets hsets
  cases hsets

theorem Filled.contains_iff (h : c.Filled) :
    c.contains pipeline = true ↔ c.chain pipeline ≠ [] := by
  rw [contains, Assoc.contains, chain]
  cases hget : c.entries.get? pipeline with
  | none => simp
  | some sets => simpa using h sets (Assoc.mem_values_of_get? hget)

/-! ## Binding -/

/-- Binding some repositories and then others is binding all of them. -/
theorem bind_bind (c : PackageSetChains) (repositories others : List Repository) :
    (c.bind repositories).bind others = c.bind (repositories ++ others) := by
  simp only [bind, List.map_map, mk.injEq]
  refine List.map_congr_left fun e _ => ?_
  simp [bindSet_eq, Function.comp_def]

/-- Chains that start empty are what the log of their changes tells. -/
theorem ofLog_refines (log : List Change) :
    (∀ pipeline, (ofLog log).chain pipeline = setsIn log pipeline) ∧
    (ofLog log).pipelines = (log.filterMap Change.addedTo?).eraseDups ∧
    (∀ pipeline, (ofLog log).contains pipeline = true ↔ (ofLog log).chain pipeline ≠ []) ∧
    (∀ repositories pipeline,
      (((ofLog log).bind repositories).chain pipeline).map (fun s => (s.install, s.exclude)) =
        ((ofLog log).chain pipeline).map fun s => (s.install, s.exclude)) ∧
    ∀ repositories others,
      ((ofLog log).bind repositories).bind others = (ofLog log).bind (repositories ++ others) := by
  refine ⟨fun pipeline => ?_, pipelines_ofLog log, fun _ => (filled_ofLog log).contains_iff,
    fun repositories pipeline => ?_, bind_bind (ofLog log)⟩
  · exact chain_foldl_change log {} pipeline
  · rw [chain_bind, List.map_map]
    rfl

end PackageSetChains
end Imagewright
