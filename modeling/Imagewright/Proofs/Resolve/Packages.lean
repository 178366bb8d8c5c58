import Imagewright.Digest.Sha256
import Imagewright.Proofs.Text.Forms

/-!
# Values that are packages

A package is made of the values of a draft, unchanged. They have to name it and to hold a checksum;
the digest of a text is one.

## Main definitions

* `PackageSpec.draft`: the values of a package.

## Main statements

* `PackageSpec.ofDraft_eq_ok`: the values of a package are what it was made of.
* `PackageSpec.exists_ofDraft`: which values are a package.
* `isChecksum_sha256Hex`: a digest is a checksum.
-/
namespace Imagewright

namespace PackageSpec

variable {d : Draft} {p : PackageSpec}

/-- The values of a package. -/
def draft (p : PackageSpec) : Draft := { p with checksum := .str p.checksum }

theorem ofDraft_draft (p : PackageSpec) : ofDraft p.draft = .ok p := by
  have hname : p.draft.name.truthy = true := p.name_truthy
  exact (dif_pos hname).trans (dif_pos p.checksum_ok)

/-- The values of a package are what it was made of. -/
theorem ofDraft_eq_ok : ofDraft d = .ok p ↔ p.draft = d := by
  constructor
  · intro h
    unfold ofDraft at h
    split at h
    · split at h
      · next hchecksum =>
        split at h
        · cases h
          rw [draft, ← hchecksum]
        · cases h
      · cases h
    · cases h
  · rintro rfl
    exact ofDraft_draft p

/-- Values that name a package and hold a checksum are a package. -/
theorem exists_ofDraft (hn : d.name.truthy = true) {checksum : String}
    (hd : d.checksum = .str checksum) (hc : isChecksum checksum = true) :
    ∃ p, ofDraft d = .ok p :=
  ⟨{ d with checksum, name_truthy := hn, checksum_ok := hc }, ofDraft_eq_ok.2 (by rw [draft, ← hd])⟩

end PackageSpec

/-! ## Checksums -/

theorem isChecksumDigit_hexDigit {n : Nat} (h : n < 16) :
    isChecksumDigit (Text.hexDigit n) = true := by
  have hall : ∀ n < 16, isChecksumDigit (Text.hexDigit n) = true := by decide
  exact hall n h

theorem isChecksumDigit_of_mem_hexDigits {width n : Nat} {c : Char}
    (h : c ∈ Text.hexDigits width n) : isChecksumDigit c = true := by
  obtain ⟨d, hd, rfl⟩ := Text.exists_of_mem_hexDigits h
  exact isChecksumDigit_hexDigit hd

theorem isChecksum_sha256 {digits : List Char} (hne : digits ≠ [])
    (h : ∀ c ∈ digits, isChecksumDigit c = true) :
    isChecksum ("sha256:" ++ String.ofList digits) = true := by
  refine isChecksum_iff.2 ⟨_, ⟨"sha256", by simp, digits, hne, ?_, rfl⟩, .inl (by simp)⟩
  exact fun c hc => isChecksumDigit_iff.1 (h c hc)

/-- The digest of a text is a checksum. -/
theorem isChecksum_sha256Hex (s : String) :
    isChecksum ("sha256:" ++ Digest.sha256Hex s) = true := by
  refine isChecksum_sha256 ?_ fun c hc => ?_
  · simp [Digest.sha256, Digest.Registers.words, ← List.length_eq_zero_iff]
  · obtain ⟨word, -, hc⟩ := List.mem_flatMap.1 hc
    exact isChecksumDigit_of_mem_hexDigits hc

end Imagewright
