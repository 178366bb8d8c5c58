import Imagewright.Catalog.Fedora.Tables
import Imagewright.Proofs.Disk.Extents
import Imagewright.Proofs.Text.Classes
import Imagewright.Random.Twister
import Mathlib.Data.List.Forall2

/-!
# The forms of identifiers

Whatever words are drawn, every identifier of a planned table is written in the form of its kind.
A partition that holds logical ones draws none: the one that planning adds has neither an identifier
nor a filesystem, and one of the base table keeps those that it has.

## Main definitions

* `Disk.HasForm`: a text is in the classes of a form, character by character.
* `Disk.uuidForm`, `Disk.diskIdForm`, `Disk.volumeIdForm`: the forms.
* `Disk.Identified`: the identifiers of a planned table.

## Main statements

* `Disk.hasForm_uuid`, `Disk.hasForm_diskId`, `Disk.hasForm_volumeId`: what is drawn has its form.
* `Disk.identified_plan`: a planned table is identified.
-/
namespace Imagewright.Disk

open Catalog
open Imagewright.Random (Source)
open scoped List

/-! ## Forms -/

/-- A text has one character for each class of a form. -/
def HasForm (form : List (Char → Bool)) (s : String) : Prop :=
  List.Forall₂ (fun p c => p c = true) form s.toList

/-- A hexadecimal digit in lower case. -/
def isLowerHex (c : Char) : Bool := ('0' ≤ c && c ≤ '9') || ('a' ≤ c && c ≤ 'f')

/-- A hexadecimal digit in upper case. -/
def isUpperHex (c : Char) : Bool := ('0' ≤ c && c ≤ '9') || ('A' ≤ c && c ≤ 'F')

/-- The first digit of the fourth group, which tells the variant. -/
def isVariant (c : Char) : Bool := c == '8' || c == '9' || c == 'a' || c == 'b'

/-- Groups of 8, 4, 4, 4 and 12 digits in lower case with hyphens between them. The third group
starts with the version. -/
def uuidForm : List (Char → Bool) :=
  List.replicate 8 isLowerHex ++ [(· == '-')] ++ List.replicate 4 isLowerHex ++ [(· == '-')] ++
    [(· == '4')] ++ List.replicate 3 isLowerHex ++ [(· == '-')] ++
    [isVariant] ++ List.replicate 3 isLowerHex ++ [(· == '-')] ++ List.replicate 12 isLowerHex

/-- Eight digits in lower case behind a mark of their base. -/
def diskIdForm : List (Char → Bool) :=
  [(· == '0'), (· == 'x')] ++ List.replicate 8 isLowerHex

/-- Two groups of four digits in upper case with a hyphen between them. -/
def volumeIdForm : List (Char → Bool) :=
  List.replicate 4 isUpperHex ++ [(· == '-')] ++ List.replicate 4 isUpperHex

/-- The identifier of a table. -/
def Label.IsTableId : Label → String → Prop
  | .gpt => HasForm uuidForm
  | .dos => HasForm diskIdForm

/-- The identifier of a partition, which is empty under a DOS label. -/
def Label.IsPartitionId : Label → String → Prop
  | .gpt => HasForm uuidForm
  | .dos => (· = "")

/-- The identifier of a filesystem. -/
def FilesystemType.IsVolumeId : FilesystemType → String → Prop
  | .vfat => HasForm volumeIdForm
  | .ext4 | .xfs => HasForm uuidForm

/-- The identifiers of a table that was planned from `base`. -/
structure Identified (base t : PartitionTable) : Prop where
  table : ∃ id, t.uuid = .str id ∧ t.label.IsTableId id
  partition : ∀ p ∈ t.partitions, p.isExtended = false →
    ∃ id, p.uuid = .str id ∧ t.label.IsPartitionId id
  filesystem : ∀ p ∈ t.partitions, p.isExtended = false → ∀ f, p.filesystem = some f →
    ∃ id, f.uuid = .str id ∧ f.type.IsVolumeId id
  /-- A partition that holds logical ones has neither an identifier nor a filesystem, or it is one
  of the base table and keeps what it has. -/
  extended : ∀ p ∈ t.partitions, p.isExtended = true →
    (p.uuid = "" ∧ p.filesystem = none) ∨
      ∃ q ∈ base.partitions, q.isExtended = true ∧ p.uuid = q.uuid ∧ p.filesystem = q.filesystem
  kept : ∀ q ∈ base.partitions, q.isExtended = true →
    ∃ p ∈ t.partitions, p.isExtended = true ∧ p.uuid = q.uuid ∧ p.filesystem = q.filesystem

/-! ## Drawn identifiers -/

theorem forall₂_replicate {p : Char → Bool} {cs : List Char} (h : ∀ c ∈ cs, p c = true) :
    List.Forall₂ (fun p c => p c = true) (List.replicate cs.length p) cs := by
  induction cs with
  | nil => exact .nil
  | cons c cs ih =>
    obtain ⟨hc, hcs⟩ := List.forall_mem_cons.1 h
    exact .cons hc (ih hcs)

theorem forall₂_hexDigits (width n : Nat) :
    List.Forall₂ (fun p c => p c = true) (List.replicate width isLowerHex)
      (Text.hexDigits width n) := by
  have hlower : ∀ d < 16, isLowerHex (Text.hexDigit d) = true := by decide
  have hall : ∀ c ∈ Text.hexDigits width n, isLowerHex c = true := by
    intro c hc
    obtain ⟨d, hd, rfl⟩ := Text.exists_of_mem_hexDigits hc
    exact hlower d hd
  simpa using forall₂_replicate hall

theorem forall₂_upperDigits (n : Nat) :
    List.Forall₂ (fun p c => p c = true) (List.replicate 4 isUpperHex) (Random.upperDigits n) := by
  have hupper : ∀ d < 16, isUpperHex (Text.hexDigit d).toUpper = true := by decide
  have hall : ∀ c ∈ Random.upperDigits n, isUpperHex c = true := by
    intro c hc
    obtain ⟨digit, hdigit, rfl⟩ := List.mem_map.1 hc
    obtain ⟨d, hd, rfl⟩ := Text.exists_of_mem_hexDigits hdigit
    exact hupper d hd
  simpa [Random.upperDigits] using forall₂_replicate hall

/-- The digits of a universally unique identifier before they are put into groups. -/
def uuidDigitForm : List (Char → Bool) :=
  List.replicate 12 isLowerHex ++ (· == '4') :: List.replicate 3 isLowerHex ++
    isVariant :: List.replicate 15 isLowerHex

theorem forall₂_uuidDigits (n : Nat) :
    List.Forall₂ (fun p c => p c = true) uuidDigitForm (Random.uuidDigits n) := by
  have hvariant : ∀ d < 4, isVariant (Text.hexDigit (8 + d)) = true := by decide
  have hv := hvariant (n / Nat.pow 2 60 % 4) (Nat.mod_lt _ (by decide))
  exact List.rel_append
    (List.rel_append (forall₂_hexDigits 12 _) (.cons rfl (forall₂_hexDigits 3 _)))
    (.cons hv (forall₂_hexDigits 15 n))

/-- A form whose digits are put into groups is the form of the groups. -/
theorem forall₂_groupDigits {digits : List Char}
    (h : List.Forall₂ (fun p c => p c = true) uuidDigitForm digits) :
    List.Forall₂ (fun p c => p c = true) uuidForm (Random.groupDigits digits) := by
  have hpart : ∀ start length, List.Forall₂ (fun p c => p c = true)
      ((uuidDigitForm.drop start).take length) ((digits.drop start).take length) :=
    fun start length => List.forall₂_take length (List.forall₂_drop start h)
  have hhyphen : ∀ {form : List (Char → Bool)} {cs : List Char},
      List.Forall₂ (fun p c => p c = true) form cs →
        List.Forall₂ (fun p c => p c = true) ((· == '-') :: form) ('-' :: cs) := .cons rfl
  exact List.rel_append (List.rel_append (List.rel_append (List.rel_append (hpart 0 8)
    (hhyphen (hpart 8 4))) (hhyphen (hpart 12 4))) (hhyphen (hpart 16 4))) (hhyphen (hpart 20 12))

variable {σ : Type} [Source σ]

theorem hasForm_uuid (s : σ) : HasForm uuidForm (Random.uuid.run s).1 := by
  rw [HasForm, Random.uuid, fst_run_bind, fst_run_pure, String.toList_ofList]
  exact forall₂_groupDigits (forall₂_uuidDigits _)

theorem hasForm_diskId (s : σ) : HasForm diskIdForm (Random.diskId.run s).1 := by
  rw [HasForm, Random.diskId, fst_run_bind, fst_run_pure, String.toList_ofList]
  exact .cons rfl (.cons rfl (forall₂_hexDigits 8 _))

theorem hasForm_volumeId (s : σ) : HasForm volumeIdForm (Random.volumeId.run s).1 := by
  rw [HasForm, Random.volumeId, fst_run_bind, fst_run_bind, fst_run_pure, String.toList_ofList]
  exact List.rel_append (forall₂_upperDigits _) (.cons rfl (forall₂_upperDigits _))

/-! ## Identified partitions -/

theorem isVolumeId_identifyFilesystem (f : Filesystem) (s : σ) :
    ∃ id, ((identifyFilesystem f).run s).1.uuid = .str id ∧
      ((identifyFilesystem f).run s).1.type.IsVolumeId id := by
  obtain ⟨type, _⟩ := f
  cases type
  · exact ⟨_, rfl, hasForm_uuid s⟩
  · exact ⟨_, rfl, hasForm_uuid s⟩
  · exact ⟨_, rfl, hasForm_volumeId s⟩

/-- A partition that holds no logical ones is given the identifier that its label asks for, and so
is its filesystem. -/
theorem isPartitionId_identifyPartition {label : Label} {p q : Partition} {s : σ}
    (hq : ((identifyPartition label p).run s).1 = q) (hp : q.isExtended = false) :
    (∃ id, q.uuid = .str id ∧ label.IsPartitionId id) ∧
      ∀ f, q.filesystem = some f → ∃ id, f.uuid = .str id ∧ f.type.IsVolumeId id := by
  subst hq
  rw [isExtended_identifyPartition] at hp
  obtain ⟨size, type, start, uuid, bootable, filesystem, pos⟩ := p
  cases label <;> cases filesystem <;>
    simp only [identifyPartition, hp, Bool.false_eq_true, if_false, fst_run_bind, fst_run_map,
      fst_run_pure, Value.str.injEq, exists_eq_left', Option.some.injEq, reduceCtorEq,
      false_implies, implies_true, forall_eq', Label.IsPartitionId, hasForm_uuid,
      isVolumeId_identifyFilesystem, and_self]

/-- What a drawing makes of the partitions of a table. -/
theorem exists_of_mem_identify {t : PartitionTable} {s : σ} {p : Partition}
    (hp : p ∈ ((identify t).run s).1.partitions) :
    ∃ q ∈ t.partitions, ∃ s' : σ, ((identifyPartition t.label q).run s').1 = p := by
  obtain ⟨label, partitions, _, _⟩ := t
  cases label <;> exact mem_run_mapM hp

theorem isTableId_identify (t : PartitionTable) (s : σ) :
    ∃ id, ((identify t).run s).1.uuid = .str id ∧ t.label.IsTableId id := by
  obtain ⟨label, partitions, _, _⟩ := t
  cases label
  · exact ⟨_, rfl, hasForm_uuid s⟩
  · exact ⟨_, rfl, hasForm_diskId s⟩

/-! ## Partitions that hold logical ones -/

/-- What a partition has before identifiers are drawn, with the type that decides whether they are.
-/
def Partition.given (p : Partition) : Value × Value × Option Filesystem :=
  (p.type, p.uuid, p.filesystem)

theorem given_growExisting (requested required : Assoc String Int) (p : Partition) :
    (growExisting requested required p).given = p.given := by
  unfold growExisting
  split <;> rfl

theorem isExtended_of_given {p q : Partition} (h : p.given = q.given) :
    p.isExtended = q.isExtended := congrArg (fun g => g.1.same dosExtendedType) h

/-- The extended partition that planning adds is given nothing. -/
def bare : Value × Value × Option Filesystem := (.str dosExtendedType, .str "", none)

/-- The layout adds the extended partition, and leaves to the others what they have. -/
theorem map_given_layOut {base : PartitionTable} {ps : List Partition} {imageSize : Int}
    {strict : Bool} {t : PartitionTable} (h : layOut base ps imageSize strict = .ok t) :
    ∃ more, (∀ g ∈ more, g = bare) ∧
      (t.partitions.map Partition.given).Perm (more ++ ps.map Partition.given) := by
  obtain ⟨-, rfl⟩ := layOut_eq_ok.1 h
  have hgrown (extra : Nat) : (growRoot extra ps).map Partition.given = ps.map Partition.given :=
    map_growRoot (fun _ _ => rfl) extra ps
  rw [map_place fun _ _ => rfl]
  split
  · refine ⟨[], List.forall_mem_nil _, ?_⟩
    rw [hgrown, List.nil_append]
  · next hl =>
    obtain ⟨hne, hnest⟩ := nest_eq (length_growRoot _ ps) hl
    refine ⟨[bare], List.forall_mem_singleton.2 rfl, ?_⟩
    rw [hnest, List.map_append, List.map_take, List.map_cons, List.map_drop, hgrown]
    calc (ps.map Partition.given).take 3 ++ bare :: (ps.map Partition.given).drop 3
        ~ bare :: ((ps.map Partition.given).take 3 ++ (ps.map Partition.given).drop 3) :=
          List.perm_middle
      _ = [bare] ++ ps.map Partition.given := by rw [List.take_append_drop]; rfl

theorem exists_given_of_mem_arrange {base : PartitionTable} {sized : List SizedPath}
    {required : Assoc String Int} {ps : List Partition} (h : arrange base sized required = .ok ps)
    {p : Partition} (hp : p ∈ ps) (hext : p.isExtended = true) :
    ∃ q ∈ base.partitions, q.given = p.given := by
  rcases (mem_of_arrange h).1 hp with hp | hp
  · obtain ⟨q, hq, rfl⟩ := List.mem_map.1 hp
    exact ⟨q, hq, (given_growExisting _ _ q).symm⟩
  · rw [noExtended_added base sized required p hp] at hext
    cases hext

/-- A partition that holds logical ones is left as it is when identifiers are drawn. -/
theorem mem_identify_of_isExtended {t : PartitionTable} {p : Partition} (hp : p ∈ t.partitions)
    (hext : p.isExtended = true) (s : σ) : p ∈ ((identify t).run s).1.partitions := by
  have hmem : p.undrawn ∈ ((identify t).run s).1.partitions.map Partition.undrawn := by
    rw [undrawn_identify]
    exact List.mem_map_of_mem hp
  obtain ⟨q, hq, hsame⟩ := List.mem_map.1 hmem
  have hqext : q.isExtended = true := by
    rw [← Partition.undrawn_isExtended, hsame, Partition.undrawn_isExtended, hext]
  rw [Partition.undrawn_of_isExtended hext, Partition.undrawn_of_isExtended hqext] at hsame
  exact hsame ▸ hq

/-! ## Planned tables -/

section

variable {policy : MountpointPolicy} {base : PartitionTable}
  {requests : List Blueprint.FilesystemRequest} {imageSize : Int} {required : Assoc String Int}
  {strict : Bool} {source : σ} {t : PartitionTable}

/-- Planning adds a bare extended partition or none, and leaves what the base table gives to
partitions that hold logical ones. -/
theorem given_plan (h : plan policy base requests imageSize required strict source = .ok t) :
    (∀ p ∈ t.partitions, p.isExtended = true →
      p.given = bare ∨ ∃ q ∈ base.partitions, q.given = p.given) ∧
    ∀ q ∈ base.partitions, q.isExtended = true → ∃ p ∈ t.partitions, p.given = q.given := by
  obtain ⟨sized, ps, table, -, harr, hlay, rfl⟩ := plan_eq_ok.1 h
  obtain ⟨more, hmore, hperm⟩ := map_given_layOut hlay
  constructor
  · intro p hp hext
    obtain ⟨q, hq, s, rfl⟩ := exists_of_mem_identify hp
    rw [isExtended_identifyPartition] at hext
    have hsame : identifyPartition table.label q = (pure q : StateM σ Partition) := if_pos hext
    rw [hsame, fst_run_pure]
    rcases List.mem_append.1 (hperm.mem_iff.1 (List.mem_map_of_mem hq)) with hg | hg
    · exact .inl (hmore _ hg)
    · obtain ⟨r, hr, hrq⟩ := List.mem_map.1 hg
      obtain ⟨q', hq', hgiven⟩ :=
        exists_given_of_mem_arrange harr hr ((isExtended_of_given hrq).trans hext)
      exact .inr ⟨q', hq', hgiven.trans hrq⟩
  · intro q hq hext
    have harranged : q.given ∈ ps.map Partition.given := by
      rw [← given_growExisting (largestRequests sized) required q]
      exact List.mem_map_of_mem ((mem_of_arrange harr).2 (.inl (List.mem_map_of_mem hq)))
    obtain ⟨p, hp, hpq⟩ := List.mem_map.1 (hperm.mem_iff.2 (List.mem_append_right more harranged))
    exact ⟨p, mem_identify_of_isExtended hp ((isExtended_of_given hpq).trans hext) source, hpq⟩

/-- Every identifier of a planned table has the form of its kind. -/
theorem identified_plan
    (h : plan policy base requests imageSize required strict source = .ok t) :
    Identified base t := by
  obtain ⟨hgiven, hkept⟩ := given_plan h
  obtain ⟨sized, ps, table, -, -, -, rfl⟩ := plan_eq_ok.1 h
  have hlabel : ((identify table).run source).1.label = table.label :=
    congrArg (·.label) (identify_anonymous table source)
  refine ⟨?table, fun p hp hext => ?partition, fun p hp hext => ?filesystem,
    fun p hp hext => ?extended, fun q hq hext => ?kept⟩
  case table =>
    rw [hlabel]
    exact isTableId_identify table source
  case partition =>
    obtain ⟨q, -, s, hq⟩ := exists_of_mem_identify hp
    rw [hlabel]
    exact (isPartitionId_identifyPartition hq hext).1
  case filesystem =>
    obtain ⟨q, -, s, hq⟩ := exists_of_mem_identify hp
    exact (isPartitionId_identifyPartition hq hext).2
  case extended =>
    rcases hgiven p hp hext with hbare | ⟨q, hq, hsame⟩
    · obtain ⟨-, huuid, hfs⟩ : p.type = _ ∧ p.uuid = .str "" ∧ p.filesystem = none := by
        simpa [Partition.given, bare] using hbare
      exact .inl ⟨huuid, hfs⟩
    · obtain ⟨-, huuid, hfs⟩ : q.type = p.type ∧ q.uuid = p.uuid ∧ q.filesystem = p.filesystem := by
        simpa [Partition.given] using hsame
      exact .inr ⟨q, hq, (isExtended_of_given hsame).trans hext, huuid.symm, hfs.symm⟩
  case kept =>
    obtain ⟨p, hp, hsame⟩ := hkept q hq hext
    obtain ⟨-, huuid, hfs⟩ : p.type = q.type ∧ p.uuid = q.uuid ∧ p.filesystem = q.filesystem := by
      simpa [Partition.given] using hsame
    exact ⟨p, hp, (isExtended_of_given hsame).trans hext, huuid, hfs⟩

/-- A disk whose size is not strict can be planned once its mountpoints are accepted. -/
theorem exists_plan {sized : List SizedPath} (hroot : HasRoot base.partitions)
    (hkeys : ∀ m ∈ base.mountpoints, m.isAtomic = true)
    (hcheck : checkMountpoints policy requests = .ok sized) (required : Assoc String Int)
    (imageSize : Int) (source : σ) :
    ∃ t, plan policy base requests imageSize required false source = .ok t := by
  obtain ⟨ps, harr⟩ := succeeds_arrange hroot hkeys sized required
  rw [plan_of_arrange hcheck harr]
  exact ⟨_, Outcome.map_eq_ok.2 ⟨_, layOut_eq_ok.2 ⟨by simp, rfl⟩, rfl⟩⟩

end

/-- A disk with a DOS label, a FAT filesystem and logical partitions. -/
theorem identified_plan_logical :
    let base : PartitionTable :=
      ⟨.dos, [Fedora.prepBoot, Fedora.efiSystem, Fedora.boot .dos, Fedora.root .dos], "", 0⟩
    let requests : List Blueprint.FilesystemRequest := [⟨"/data", 3000⟩, ⟨"/var/log", 1⟩]
    ∃ t, plan .standard base requests (8 * gib) requiredSizes false (Random.Twister.ofSeed 7) =
        .ok t ∧ Identified base t := by
  intro base requests
  have hroot : HasRoot base.partitions := ⟨Fedora.root .dos, by simp [base], by decide⟩
  have hkeys : ∀ m ∈ base.mountpoints, m.isAtomic = true := by decide
  have hcheck : checkMountpoints .standard requests = .ok [⟨"/data", 3000⟩, ⟨"/var/log", 1⟩] := by
    decide +kernel
  obtain ⟨t, h⟩ := exists_plan hroot hkeys hcheck requiredSizes (8 * gib)
    (Random.Twister.ofSeed 7)
  exact ⟨t, h, identified_plan h⟩

/-- A partition of the base table that holds logical ones keeps an identifier under a DOS label, and
a filesystem without one. -/
theorem extended_keeps_given :
    let container : Partition :=
      { size := mib, type := dosExtendedType, uuid := "0a1b2c3d-05", size_pos := by decide
        filesystem := some { type := .ext4, mountpoint := "/data" } }
    let base : PartitionTable := ⟨.dos, [container, Fedora.root .dos], "", 0⟩
    ∃ t, plan .standard base [] (8 * gib) requiredSizes false (Random.Twister.ofSeed 7) = .ok t ∧
      (¬∀ p ∈ t.partitions, p.isExtended = true → p.uuid = "" ∧ p.filesystem = none) ∧
      (¬∀ p ∈ t.partitions, p.uuid = "") ∧ ¬∀ f ∈ t.filesystems, f.uuid ≠ "" := by
  intro container base
  have hroot : HasRoot base.partitions := ⟨Fedora.root .dos, by simp [base], by decide⟩
  have hkeys : ∀ m ∈ base.mountpoints, m.isAtomic = true := by decide
  have hcheck : checkMountpoints .standard [] = .ok [] := rfl
  obtain ⟨t, h⟩ := exists_plan hroot hkeys hcheck requiredSizes (8 * gib)
    (Random.Twister.ofSeed 7)
  obtain ⟨p, hp, hgiven⟩ := (given_plan h).2 container (by simp [base]) rfl
  have hext : p.isExtended = true := isExtended_of_given hgiven
  obtain ⟨-, huuid, hfs⟩ :
      p.type = _ ∧ p.uuid = "0a1b2c3d-05" ∧ p.filesystem = container.filesystem := by
    simpa [Partition.given] using hgiven
  refine ⟨t, h, fun hall => ?_, fun hall => ?_, fun hall => ?_⟩
  · have hnone := (hall p hp hext).2
    rw [hfs] at hnone
    cases hnone
  · have hempty := hall p hp
    rw [huuid] at hempty
    simp at hempty
  · exact hall _ (List.mem_filterMap.2 ⟨p, hp, hfs⟩) rfl

end Imagewright.Disk
