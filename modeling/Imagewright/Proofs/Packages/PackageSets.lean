import Imagewright.Packages.Chains
import Imagewright.Proofs.FirstOccurrences
import Imagewright.Proofs.Value.Equality

/-!
# Package sets as one

Package sets that are put together form a monoid, although repositories are compared with those of
the first set only. So a chain may be cut anywhere, flattened in parts, and the parts put together.

## Main definitions

* `Repository.Apart`: no repository equals an earlier one.

## Main statements

* `PackageSet.append_assoc`: package sets are put together in any grouping.
* `PackageSetChains.flatten_of_chain`: a chain is flattened in parts.
* `PackageSetChains.repositories_flatten`: the repositories of a flattened chain.
* `PackageSetChains.flatten_homomorphism`: all laws of package sets and of flattening.
-/
namespace Imagewright

/-! ## Repositories -/

namespace Repository

variable {q r s : Repository}

theorem same_trans (h : q.same r = true) (h' : r.same s = true) : q.same s = true := by
  simp only [same, Bool.and_eq_true, beq_iff_eq] at h h' ⊢
  obtain ⟨⟨⟨⟨⟨⟨⟨⟨hid, hbase⟩, hmeta⟩, hmirror⟩, hkeys⟩, hgpg⟩, hrepo⟩, hssl⟩, hsets⟩ := h
  obtain ⟨⟨⟨⟨⟨⟨⟨⟨hid', hbase'⟩, hmeta'⟩, hmirror'⟩, hkeys'⟩, hgpg'⟩, hrepo'⟩, hssl'⟩, hsets'⟩ := h'
  exact ⟨⟨⟨⟨⟨⟨⟨⟨hid.trans hid', Value.sameItems_trans _ hbase hbase'⟩,
    Value.same_trans _ hmeta hmeta'⟩, Value.same_trans _ hmirror hmirror'⟩,
    Value.sameItems_trans _ hkeys hkeys'⟩, hgpg.trans hgpg'⟩, hrepo.trans hrepo'⟩,
    hssl.trans hssl'⟩, Value.sameItems_trans _ hsets hsets'⟩

/-- No repository of a list equals an earlier one. -/
def Apart (repositories : List Repository) : Prop :=
  repositories.Pairwise fun earlier later => later.same earlier = false

end Repository

/-! ## Package sets -/

namespace PackageSet

variable {known others repositories : List Repository}

@[simp] theorem newRepositories_nil : newRepositories [] repositories = repositories := by
  simp [newRepositories]

/-- What is new behind two lists is what is new in it behind the second, and then behind the first.
-/
theorem newRepositories_append :
    newRepositories (known ++ newRepositories known others) repositories =
      newRepositories known (newRepositories others repositories) := by
  simp only [newRepositories, List.filter_filter]
  refine List.filter_congr fun r _ => ?_
  rw [List.any_append, Bool.not_or, Bool.eq_iff_iff]
  simp only [Bool.and_eq_true, Bool.not_eq_true', List.any_eq_false, List.mem_filter]
  refine and_congr_right fun hknown => ⟨fun hnew s hs hsame => ?_, fun hothers s hs => ?_⟩
  · -- a repository that is left out equals a known one, and then `r` would equal that one
    refine hnew s ⟨hs, fun t ht hst => ?_⟩ hsame
    exact hknown t ht (Repository.same_trans hsame hst)
  · exact hothers s hs.1

/-- Package sets are put together in any grouping. -/
theorem append_assoc (a b c : PackageSet) :
    (a.append b).append c = a.append (b.append c) := by
  have hrepositories : a.repositories ++ newRepositories a.repositories b.repositories ++
      newRepositories (a.repositories ++ newRepositories a.repositories b.repositories)
        c.repositories =
      a.repositories ++ newRepositories a.repositories
        (b.repositories ++ newRepositories b.repositories c.repositories) := by
    rw [newRepositories_append, List.append_assoc]
    simp only [newRepositories, List.filter_append]
  simp only [append, List.append_assoc, mk.injEq, true_and]
  rw [← List.append_assoc]
  exact hrepositories

@[simp] theorem empty_append (a : PackageSet) : append {} a = a := by simp [append]

@[simp] theorem append_empty (a : PackageSet) : a.append {} = a := by
  simp [append, newRepositories]

instance : Std.Associative append := ⟨append_assoc⟩

instance : Std.LawfulIdentity append {} where
  left_id := empty_append
  right_id := append_empty

/-- What is put together set by set is put together along a chain. -/
theorem foldl_append_eq {f : PackageSet → List Value}
    (h : ∀ s t : PackageSet, f (s.append t) = f s ++ f t) (s : PackageSet)
    (sets : List PackageSet) : f (sets.foldl append s) = f s ++ sets.flatMap f := by
  induction sets generalizing s with
  | nil => simp
  | cons t sets ih => rw [List.foldl_cons, ih, h, List.flatMap_cons, List.append_assoc]

end PackageSet

/-! ## Chains -/

namespace PackageSetChains

open PackageSet (append newRepositories)
open FirstOccurrences

variable {c first second : PackageSetChains} {pipeline : String}

/-- A chain is flattened in parts. -/
theorem flatten_of_chain (h : c.chain pipeline = first.chain pipeline ++ second.chain pipeline) :
    c.flatten pipeline = (first.flatten pipeline).append (second.flatten pipeline) := by
  calc c.flatten pipeline
      = (second.chain pipeline).foldl append ((first.flatten pipeline).append {}) := by
        rw [flatten, h, List.foldl_append, PackageSet.append_empty, flatten]
    _ = (first.flatten pipeline).append (second.flatten pipeline) := List.foldl_assoc

theorem repositories_foldl_append {sets : List PackageSet}
    (h : ∀ s ∈ sets, Repository.Apart s.repositories) :
    (sets.foldl append {}).repositories =
      (sets.flatMap (·.repositories)).eraseDupsBy Repository.same := by
  induction sets using List.reverseRecOn with
  | nil => simp
  | append_singleton sets s ih =>
    rw [List.forall_mem_append, List.forall_mem_singleton] at h
    have hnew : (newRepositories (sets.foldl append {}).repositories s.repositories).eraseDupsBy
        Repository.same = newRepositories (sets.foldl append {}).repositories s.repositories :=
      eraseDupsBy_of_pairwise (h.2.filter _)
    rw [List.flatMap_append, List.flatMap_singleton, eraseDupsBy_append, ← ih h.1,
      List.foldl_append]
    exact congrArg _ hnew.symm

/-- The repositories of a flattened chain are those of its sets, each at its first place. -/
theorem repositories_flatten
    (h : ∀ s ∈ c.chain pipeline, Repository.Apart s.repositories) :
    (c.flatten pipeline).repositories =
      ((c.chain pipeline).flatMap (·.repositories)).eraseDupsBy Repository.same :=
  repositories_foldl_append h

/-- Package sets that are put together form a monoid, and flattening carries chains that are put
together to it. A flattened chain has the packages of its sets in order, and the repositories of its
sets in the order of their first places, provided that no set has a repository twice. -/
theorem flatten_homomorphism :
    (∀ a b d : PackageSet, (a.append b).append d = a.append (b.append d)) ∧
    (∀ a : PackageSet, append {} a = a ∧ a.append {} = a) ∧
    ∀ (c : PackageSetChains) (pipeline : String),
      (∀ first second : PackageSetChains,
        c.chain pipeline = first.chain pipeline ++ second.chain pipeline →
        c.flatten pipeline = (first.flatten pipeline).append (second.flatten pipeline)) ∧
      (c.flatten pipeline).install = (c.chain pipeline).flatMap (·.install) ∧
      (c.flatten pipeline).exclude = (c.chain pipeline).flatMap (·.exclude) ∧
      ((∀ s ∈ c.chain pipeline, Repository.Apart s.repositories) →
        Repository.Apart (c.flatten pipeline).repositories ∧
        (c.flatten pipeline).repositories =
          ((c.chain pipeline).flatMap (·.repositories)).eraseDupsBy Repository.same) := by
  refine ⟨PackageSet.append_assoc, fun a => ⟨a.empty_append, a.append_empty⟩, fun c pipeline => ?_⟩
  refine ⟨fun first second => flatten_of_chain, ?_, ?_, fun h => ?_⟩
  · exact PackageSet.foldl_append_eq (fun _ _ => rfl) {} (c.chain pipeline)
  · exact PackageSet.foldl_append_eq (fun _ _ => rfl) {} (c.chain pipeline)
  · have hrepositories := repositories_flatten h
    refine ⟨?_, hrepositories⟩
    rw [hrepositories]
    exact pairwise_eraseDupsBy _

/-- A repository that both sets of a chain have comes once. -/
theorem flatten_homomorphism_shared :
    let updates : Repository := {
      id := ⟨"updates", by decide⟩, baseurls := ["https://example.com/updates"], metalink := .null
      mirrorlist := .null, gpgKeys := [], checkGpg := true, checkRepoGpg := false
      ignoreSsl := false, packageSets := [], has_source := rfl }
    let tools : Repository := { updates with id := ⟨"tools", by decide⟩, has_source := rfl }
    let editor : PackageSet := { install := ["vim"], repositories := [updates, tools] }
    let sources : PackageSet := {
      install := ["git", "vim"], exclude := ["nano"], repositories := [tools] }
    let first := PackageSetChains.add {} "os" editor
    let second := PackageSetChains.add {} "os" sources
    let c := first.add "os" sources
    c.chain "os" = first.chain "os" ++ second.chain "os" ∧
    (∀ s ∈ c.chain "os", Repository.Apart s.repositories) ∧
    c.flatten "os" = (first.flatten "os").append (second.flatten "os") ∧
    (c.flatten "os").install = ["vim", "git", "vim"] ∧
    (c.flatten "os").repositories = [updates, tools] := by
  intro updates tools editor sources first second c
  have hchain : c.chain "os" = first.chain "os" ++ second.chain "os" := rfl
  have happart : ∀ s ∈ c.chain "os", Repository.Apart s.repositories := by
    have hsets : c.chain "os" = [editor, sources] := rfl
    have htwo : tools.same updates = false := rfl
    rw [hsets]
    simp [Repository.Apart, editor, sources, htwo]
  obtain ⟨-, -, h⟩ := flatten_homomorphism
  obtain ⟨hcut, hinstall, -, hrepositories⟩ := h c "os"
  refine ⟨hchain, happart, hcut first second hchain, hinstall, ?_⟩
  rw [(hrepositories happart).2]
  rfl

end PackageSetChains
end Imagewright
