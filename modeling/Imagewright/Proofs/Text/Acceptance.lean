import Imagewright.Proofs.Request.Accepted
import Imagewright.Proofs.Resolve.Packages

/-!
# Which texts are accepted

Tags, refs, checksums and modes are accepted by their form, and a single line feed may follow any of
them.

## Main statements

* `accepted_iff_form`: what is accepted.
* `lineFeed_accepted`: a line feed may follow each of the forms.
-/
namespace Imagewright

open Request (checkMode checkOstree isMode isMode_iff isRef isRef_iff)

theorem exists_ofString {s : String} :
    (∃ id, CorrelationId.ofString s = .ok id) ↔ s.length ≤ 128 ∧ isCorrelationText s = true := by
  have hempty : isCorrelationText "" = false := by decide
  unfold CorrelationId.ofString
  split
  · next hs =>
    rw [beq_iff_eq.1 hs, hempty]
    simp
  · split
    · next hl =>
      split
      · next hw => exact iff_of_true ⟨_, rfl⟩ ⟨hl, hw⟩
      · next hw => exact iff_of_false nofun fun h => hw h.2
    · next hl => exact iff_of_false nofun fun h => hl h.1

theorem checkRef_eq_ok {field : Request.RefField} {ref tag : String} :
    Request.checkRef field ref tag = .ok () ↔ ref = "" ∨ isRef ref = true := by
  rw [Request.checkRef, Request.require_eq_ok, Bool.or_eq_true, beq_iff_eq]

theorem checkOstree_eq_ok {o : Request.OstreeOptions} {tag : String} :
    checkOstree o tag = .ok () ↔ (o.ref = "" ∨ isRef o.ref = true) ∧
      (o.parent = "" ∨ isRef o.parent = true) ∧ (o.parent = "" ∨ o.url.truthy = true) := by
  rw [checkOstree, Outcome.check_bind_eq_ok, Outcome.check_bind_eq_ok, checkRef_eq_ok,
    checkRef_eq_ok, Request.require_eq_ok, Bool.or_eq_true, beq_iff_eq]

theorem exists_ofDraft_iff {d : PackageSpec.Draft} :
    (∃ p, PackageSpec.ofDraft d = .ok p) ↔
      d.name.truthy = true ∧ ∃ s, d.checksum = .str s ∧ isChecksum s = true := by
  constructor
  · rintro ⟨p, h⟩
    obtain rfl := PackageSpec.ofDraft_eq_ok.1 h
    exact ⟨p.name_truthy, p.checksum, rfl, p.checksum_ok⟩
  · rintro ⟨hname, s, hs, hc⟩
    exact PackageSpec.exists_ofDraft hname hs hc

theorem checkMode_str {s tag : String} : checkMode s tag = .ok () ↔ isMode s = true :=
  Request.require_eq_ok

/-- Tags, refs, checksums and modes are accepted if they have their form, up to one line feed at the
end. Within its form none of them has a line break. -/
theorem accepted_iff_form (s tag : String) (o : Request.OstreeOptions) (d : PackageSpec.Draft)
    (cs : List Char) :
    ((∃ id, CorrelationId.ofString s = .ok id) ↔ s.length ≤ 128 ∧ UpToLineFeed TagForm s) ∧
    (checkOstree o tag = .ok () ↔ (o.ref = "" ∨ UpToLineFeed RefForm o.ref) ∧
      (o.parent = "" ∨ UpToLineFeed RefForm o.parent) ∧
      (o.parent = "" ∨ o.url.truthy = true)) ∧
    ((∃ p, PackageSpec.ofDraft d = .ok p) ↔
      d.name.truthy = true ∧ ∃ t, d.checksum = .str t ∧ UpToLineFeed ChecksumForm t) ∧
    (checkMode s tag = .ok () ↔ UpToLineFeed ModeForm s) ∧
    (TagForm cs ∨ RefForm cs ∨ ChecksumForm cs ∨ ModeForm cs → ∀ c ∈ lineBreaks, c ∉ cs) := by
  refine ⟨?tag, ?ref, ?checksum, ?mode, fun h => ?breaks⟩
  case tag => rw [exists_ofString, isCorrelationText_iff]
  case ref => simp only [checkOstree_eq_ok, isRef_iff]
  case checksum => simp only [exists_ofDraft_iff, isChecksum_iff]
  case mode => rw [checkMode_str, isMode_iff]
  case breaks =>
    rcases h with h | h | h | h
    · exact h.notMem
    · exact h.notMem
    · exact h.notMem
    · exact h.notMem

theorem accepted_iff_form_tag :
    TagForm "corr-1".toList ∧ (∃ id, CorrelationId.ofString "corr-1" = .ok id) ∧
      ∀ c ∈ lineBreaks, c ∉ "corr-1".toList :=
  have hform : TagForm "corr-1".toList := ⟨by decide, Text.forall_mem_of_all (by decide)⟩
  have haccepted := accepted_iff_form "corr-1" "" { ref := "fedora/38" }
    { name := "bash", version := "5.2", release := "1", arch := "x86_64"
      remoteLocation := "bash.rpm", checksum := "sha1:0f" } "corr-1".toList
  ⟨hform, haccepted.1.2 ⟨by decide, _, hform, .inl rfl⟩, haccepted.2.2.2.2 (.inl hform)⟩

/-- A line feed may follow each of the forms, which is then not the form of the whole text. -/
theorem lineFeed_accepted :
    (¬∀ s, (∃ id, CorrelationId.ofString s = .ok id) ↔ s.length ≤ 128 ∧ TagForm s.toList) ∧
    (¬∀ s, s ≠ "" → (checkOstree { ref := s } = .ok () ↔ RefForm s.toList)) ∧
    (¬∀ s, isChecksum s = true ↔ ChecksumForm s.toList) ∧
    ¬∀ s : String, checkMode s = .ok () ↔ ModeForm s.toList := by
  refine ⟨fun h => ?tag, fun h => ?ref, fun h => ?checksum, fun h => ?mode⟩
  case tag =>
    have htag : ∃ id, CorrelationId.ofString "abc\n" = .ok id :=
      exists_ofString.2 ⟨by decide, by decide⟩
    exact ((h _).1 htag).2.notMem '\n' (by decide) (by decide)
  case ref =>
    have href : checkOstree { ref := "fedora/38\n" } = .ok () :=
      checkOstree_eq_ok.2 ⟨.inr (by decide), .inl rfl, .inl rfl⟩
    exact ((h _ (by decide)).1 href).notMem '\n' (by decide) (by decide)
  case checksum => exact ((h "sha1:0f\n").1 (by decide)).notMem '\n' (by decide) (by decide)
  case mode =>
    have hmode : checkMode "0644\n" = .ok () := checkMode_str.2 (by decide)
    exact ((h _).1 hmode).notMem '\n' (by decide) (by decide)

end Imagewright
