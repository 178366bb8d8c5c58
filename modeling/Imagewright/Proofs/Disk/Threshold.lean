import Imagewright.Proofs.Disk.Contents
import Mathlib.Data.List.Perm.Subperm

/-!
# The least size of a disk

What partitions need does not depend on the size that is asked for. So there is one least size: a
strict plan fails for what is below it, and any other plan has at least that size. Asking for more
mountpoints or for larger ones never lowers it.

## Main definitions

* `Disk.leastSize`: the bytes that the partitions of a request need.
* `Disk.Threshold`: a size decides which plans fail, and how large the others are.
* `Disk.AsksMore`: a list of requests with one request more, or with a larger one.

## Main statements

* `Disk.leastSize_mono`: asking for more never needs less.
* `Disk.plan_threshold`: the least size of a request is its threshold.
-/
namespace Imagewright.Disk

open Catalog
open Imagewright.Random (Source)

/-! ## Sizes that grow -/

theorem alignUp_mono {m n : Int} (h : m ≤ n) : alignUp m ≤ alignUp n := by
  unfold alignUp mib
  omega

theorem totalSize_perm {ps qs : List Partition} (h : ps.Perm qs) : totalSize ps = totalSize qs := by
  induction h with
  | nil => rfl
  | cons p _ ih => simp only [totalSize, ih]
  | swap p q ps => simp only [totalSize]; omega
  | trans _ _ ih₁ ih₂ => exact ih₁.trans ih₂

theorem totalSize_le_of_sublist {ps qs : List Partition} (h : ps.Sublist qs) :
    totalSize ps ≤ totalSize qs := by
  induction h with
  | slnil => exact Int.le_refl _
  | cons q _ ih => have := q.size_pos; simp only [totalSize]; omega
  | cons_cons p _ ih => simp only [totalSize]; omega

theorem totalSize_map_le {α : Type} {f g : α → Partition} (h : ∀ a, (f a).size ≤ (g a).size)
    (as : List α) : totalSize (as.map f) ≤ totalSize (as.map g) := by
  induction as with
  | nil => exact Int.le_refl _
  | cons a as ih => have := h a; simp only [List.map_cons, totalSize]; omega

/-- More partitions have more logical ones among them. -/
theorem neededSize_le (label : Label) {ps qs : List Partition} (hlen : ps.length ≤ qs.length)
    (hsize : totalSize ps ≤ totalSize qs) : neededSize label ps ≤ neededSize label qs := by
  have hcount : logicalCount label ps ≤ logicalCount label qs := by
    cases label with
    | gpt => exact Nat.le_refl _
    | dos =>
      simp only [logicalCount, primarySlots]
      grind
  have hrecords := Int.mul_le_mul_of_nonneg_right (Int.ofNat_le.2 hcount)
    (by decide : (0 : Int) ≤ bootRecordSize)
  unfold neededSize
  omega

theorem neededSize_perm (label : Label) {ps qs : List Partition} (h : ps.Perm qs) :
    neededSize label ps = neededSize label qs := by
  simp only [neededSize, logicalCount, totalSize_perm h, h.length_eq]

/-! ## Requests that ask for more -/

/-- Each request is met by one for the same path that asks for at least as much. -/
def Covers (requests requests' : List SizedPath) : Prop :=
  ∀ r ∈ requests, ∃ r' ∈ requests', r'.path = r.path ∧ r.minSize ≤ r'.minSize

theorem foldl_max_le_iff {ns : List Int} {a n : Int} :
    ns.foldl max a ≤ n ↔ a ≤ n ∧ ∀ m ∈ ns, m ≤ n := by
  induction ns generalizing a with
  | nil => simp
  | cons m ns ih => simp only [List.foldl_cons, ih, List.forall_mem_cons, Int.max_le, and_assoc]

theorem largestFor_le_iff {requests : List SizedPath} {path : String} {n : Int} :
    largestFor requests path ≤ n ↔
      0 ≤ n ∧ ∀ r ∈ requests, r.path = path → (r.minSize : Int) ≤ n := by
  rw [largestFor, foldl_max_le_iff, List.forall_mem_map]
  simp only [List.mem_filter, beq_iff_eq, and_imp]

section

variable {requests requests' : List SizedPath} (h : Covers requests requests')

include h

theorem largestFor_mono (path : String) : largestFor requests path ≤ largestFor requests' path := by
  obtain ⟨hnonneg, hall⟩ := largestFor_le_iff.1 (Int.le_refl (largestFor requests' path))
  refine largestFor_le_iff.2 ⟨hnonneg, fun r hr hpath => ?_⟩
  obtain ⟨r', hr', hsame, hle⟩ := h r hr
  have := hall r' hr' (hsame.trans hpath)
  omega

theorem demand_mono (required : Assoc String Int) (m : Value) :
    demand requests required m ≤ demand requests' required m := by
  cases m with
  | str path =>
    have := largestFor_mono h path
    simp only [demand]
    omega
  | _ => exact Int.le_refl _

theorem size_growExisting_mono (required : Assoc String Int) (p : Partition) :
    (growExisting (largestRequests requests) required p).size ≤
      (growExisting (largestRequests requests') required p).size := by
  rw [size_growExisting, size_growExisting, plannedSize, plannedSize]
  split
  · exact Int.le_refl _
  · next m _ =>
    have := demand_mono h required m
    exact alignUp_mono (by omega)

theorem newPaths_subset (base : PartitionTable) :
    newPaths base requests ⊆ newPaths base requests' := by
  intro path hpath
  simp only [newPaths_eq, List.mem_filter, List.mem_eraseDups, List.mem_map] at hpath ⊢
  obtain ⟨⟨r, hr, rfl⟩, hnew⟩ := hpath
  obtain ⟨r', hr', hsame, -⟩ := h r hr
  exact ⟨⟨r', hr', hsame⟩, hnew⟩

end

/-! ## The least size -/

/-- The requests for paths that are texts. -/
def textRequests (requests : List Blueprint.FilesystemRequest) : List SizedPath :=
  requests.filterMap fun r => (sizedPath r).toOption

/-- The bytes that the partitions of a table and those for new mountpoints need. -/
def leastSize (base : PartitionTable) (required : Assoc String Int)
    (requests : List Blueprint.FilesystemRequest) : Int :=
  neededSize base.label
    (grown base (textRequests requests) required ++ added base (textRequests requests) required)

theorem textRequests_of_checkMountpoints {policy : MountpointPolicy}
    {requests : List Blueprint.FilesystemRequest} {sized : List SizedPath}
    (h : checkMountpoints policy requests = .ok sized) : textRequests requests = sized := by
  rw [eq_map_of_checkMountpoints h, textRequests, List.filterMap_map]
  exact List.filterMap_some

theorem neededSize_arrange {base : PartitionTable} {requests : List SizedPath}
    {required : Assoc String Int} {ps : List Partition}
    (h : arrange base requests required = .ok ps) :
    neededSize base.label ps =
      neededSize base.label (grown base requests required ++ added base requests required) := by
  obtain ⟨-, root, -, rfl⟩ := arrange_eq_ok.1 h
  refine neededSize_perm _ ?_
  rw [List.append_assoc]
  refine (List.perm_append_comm.append_left _).trans ?_
  rw [← List.append_assoc, List.take_append_drop]

/-- What covers a list of requests needs at least as much. -/
theorem neededSize_mono {requests requests' : List SizedPath} (h : Covers requests requests')
    (base : PartitionTable) (required : Assoc String Int) :
    neededSize base.label (grown base requests required ++ added base requests required) ≤
      neededSize base.label
        (grown base requests' required ++ added base requests' required) := by
  -- The new paths of the one list are among those of the other, in another order.
  obtain ⟨paths, hperm, hsub⟩ := List.subperm_of_subset (nodup_newPaths base requests)
    (newPaths_subset h base)
  have hsame : (added base requests required).Perm (paths.map fun path =>
      newPartition base.label required path (largestFor requests path)) := by
    rw [added_eq]
    exact hperm.symm.map _
  have hmore : (paths.map fun path => newPartition base.label required path
      (largestFor requests' path)).Sublist (added base requests' required) := by
    rw [added_eq]
    exact hsub.map _
  refine neededSize_le _ ?_ ?_
  · have hlen := hmore.length_le
    have hsame_len := hsame.length_eq
    rw [List.length_map] at hlen hsame_len
    simp only [List.length_append, grown, List.length_map]
    omega
  · have hgrown : totalSize (grown base requests required) ≤
        totalSize (grown base requests' required) :=
      totalSize_map_le (size_growExisting_mono h required) _
    have hpaths : totalSize (paths.map fun path =>
        newPartition base.label required path (largestFor requests path)) ≤
          totalSize (paths.map fun path =>
            newPartition base.label required path (largestFor requests' path)) := by
      refine totalSize_map_le (fun path => alignUp_mono ?_) _
      have := largestFor_mono h path
      omega
    have := totalSize_perm hsame
    have := totalSize_le_of_sublist hmore
    rw [totalSize_append, totalSize_append]
    omega

/-- A list of requests asks for one thing more than another one: one request more, anywhere in the
list, or a larger size for one of its requests. -/
inductive AsksMore :
    List Blueprint.FilesystemRequest → List Blueprint.FilesystemRequest → Prop
  | add (before : List Blueprint.FilesystemRequest) (r : Blueprint.FilesystemRequest)
      (after : List Blueprint.FilesystemRequest) :
      AsksMore (before ++ after) (before ++ r :: after)
  | raise (before : List Blueprint.FilesystemRequest) (r : Blueprint.FilesystemRequest)
      (size : Nat) (after : List Blueprint.FilesystemRequest) (h : r.minSize ≤ size) :
      AsksMore (before ++ r :: after) (before ++ { r with minSize := size } :: after)

theorem mem_textRequests {requests : List Blueprint.FilesystemRequest} {s : SizedPath} :
    s ∈ textRequests requests ↔ ⟨.str s.path, s.minSize⟩ ∈ requests := by
  rw [textRequests, List.mem_filterMap]
  constructor
  · rintro ⟨⟨mountpoint, minSize⟩, hr, hs⟩
    cases mountpoint with
    | str path =>
      obtain rfl := Option.some.inj hs
      exact hr
    | _ => cases hs
  · exact fun h => ⟨_, h, rfl⟩

theorem AsksMore.covers {requests requests' : List Blueprint.FilesystemRequest}
    (h : AsksMore requests requests') :
    Covers (textRequests requests) (textRequests requests') := by
  intro s hs
  rw [mem_textRequests] at hs
  cases h with
  | add before r after =>
    refine ⟨s, mem_textRequests.2 ?_, rfl, Nat.le_refl _⟩
    rcases List.mem_append.1 hs with hs | hs <;> simp [hs]
  | raise before r size after hle =>
    rcases List.mem_append.1 hs with hs | hs
    · exact ⟨s, mem_textRequests.2 (by simp [hs]), rfl, Nat.le_refl _⟩
    · rcases List.mem_cons.1 hs with rfl | hs
      · exact ⟨⟨s.path, size⟩, mem_textRequests.2 (by simp), rfl, hle⟩
      · exact ⟨s, mem_textRequests.2 (by simp [hs]), rfl, Nat.le_refl _⟩

/-- Asking for more never needs less. -/
theorem leastSize_mono {requests requests' : List Blueprint.FilesystemRequest}
    (h : AsksMore requests requests') (base : PartitionTable) (required : Assoc String Int) :
    leastSize base required requests ≤ leastSize base required requests' :=
  neededSize_mono h.covers base required

/-! ## Planning -/

/-- A size decides for which image sizes a strict plan fails, and how large the disk is otherwise,
whatever is drawn. -/
structure Threshold (policy : MountpointPolicy) (base : PartitionTable)
    (required : Assoc String Int) (requests : List Blueprint.FilesystemRequest) (least : Int) :
    Prop where
  /-- Only a strict size that is rounded up to less than the threshold is too small, and the error
  tells both. -/
  insufficient : ∀ {σ : Type} [Source σ] (source : σ) (imageSize : Int) (strict : Bool)
    (size available : Int),
    plan policy base requests imageSize required strict source =
        .error (.insufficient size available) ↔
      strict = true ∧ alignUp imageSize < least ∧ size = least ∧ available = imageSize
  /-- Otherwise the disk has its size, or the threshold if that is larger. -/
  planned : ∀ {σ : Type} [Source σ] (source : σ) (imageSize : Int) (strict : Bool),
    (strict = true → least ≤ alignUp imageSize) →
    ∃ t, plan policy base requests imageSize required strict source = .ok t ∧
      t.size = max least (alignUp imageSize)
  /-- What the error says is required does. -/
  retried : ∀ {σ : Type} [Source σ] (source : σ),
    ∃ t, plan policy base requests least required true source = .ok t

theorem threshold_of_arrange {policy : MountpointPolicy} {base : PartitionTable}
    {required : Assoc String Int} {requests : List Blueprint.FilesystemRequest}
    {sized : List SizedPath} {ps : List Partition}
    (hc : checkMountpoints policy requests = .ok sized)
    (ha : arrange base sized required = .ok ps) :
    Threshold policy base required requests (neededSize base.label ps) := by
  have hplanned : ∀ {σ : Type} [Source σ] (source : σ) (imageSize : Int) (strict : Bool),
      (strict = true → neededSize base.label ps ≤ alignUp imageSize) →
      ∃ t, plan policy base requests imageSize required strict source = .ok t ∧
        t.size = max (neededSize base.label ps) (alignUp imageSize) := by
    intro σ _ source imageSize strict hfits
    rw [plan_of_arrange hc ha]
    refine ⟨_, Outcome.map_eq_ok.2 ⟨_, layOut_eq_ok.2 ⟨hfits, rfl⟩, rfl⟩, ?_⟩
    rw [size_identify, Int.max_comm]
  refine ⟨fun source imageSize strict size available => ?_, hplanned, fun source => ?_⟩
  · rw [plan_of_arrange hc ha, Outcome.map_eq_error, layOut_eq_error, PlanError.insufficient.injEq]
    simp only [eq_comm]
  · obtain ⟨t, ht, -⟩ := hplanned source _ true fun _ => le_alignUp _
    exact ⟨t, ht⟩

/-- For every list of requests that is accepted, the least size of its partitions is a threshold
for all image sizes, and the threshold does not go down when more is asked for. -/
theorem plan_threshold {policy : MountpointPolicy} {base : PartitionTable}
    (hroot : ∃ p ∈ base.partitions, p.isMountedAt "/" = true)
    (hkeys : ∀ m ∈ base.mountpoints, m.isAtomic = true) (required : Assoc String Int) :
    (∀ requests, Outcome.Succeeds (checkMountpoints policy requests) →
      Threshold policy base required requests (leastSize base required requests)) ∧
    ∀ requests requests', AsksMore requests requests' →
      leastSize base required requests ≤ leastSize base required requests' := by
  refine ⟨fun requests hchecked => ?_, fun _ _ hmore => leastSize_mono hmore base required⟩
  obtain ⟨sized, hcheck⟩ := hchecked
  obtain ⟨ps, harr⟩ := succeeds_arrange hroot hkeys sized required
  rw [leastSize, textRequests_of_checkMountpoints hcheck, ← neededSize_arrange harr]
  exact threshold_of_arrange hcheck harr

/-- A mountpoint more than the primary slots have room for takes a mebibyte for itself and two for
the boot records. -/
theorem plan_threshold_fifth :
    let base : PartitionTable :=
      ⟨.dos, [Fedora.prepBoot, Fedora.boot .dos, Fedora.root .dos], "", 0⟩
    (∃ p ∈ base.partitions, p.isMountedAt "/" = true) ∧
    (∀ m ∈ base.mountpoints, m.isAtomic = true) ∧
    Threshold .standard base requiredSizes [⟨"/data", 3000⟩] (2554 * mib) ∧
    Threshold .standard base requiredSizes [⟨"/var", 1⟩, ⟨"/data", 3000⟩] (2557 * mib) := by
  intro base
  have hroot : ∃ p ∈ base.partitions, p.isMountedAt "/" = true := by decide
  have hkeys : ∀ m ∈ base.mountpoints, m.isAtomic = true := by decide
  have hthreshold : ∀ requests, Outcome.Succeeds (checkMountpoints .standard requests) →
      Threshold .standard base requiredSizes requests (leastSize base requiredSizes requests) :=
    (plan_threshold hroot hkeys requiredSizes).1
  have hfour := hthreshold [⟨"/data", 3000⟩] ⟨_, rfl⟩
  have hfive := hthreshold [⟨"/var", 1⟩, ⟨"/data", 3000⟩] ⟨_, rfl⟩
  have hleast : leastSize base requiredSizes [⟨"/data", 3000⟩] = 2554 * mib := by decide +kernel
  have hlogical : leastSize base requiredSizes [⟨"/var", 1⟩, ⟨"/data", 3000⟩] = 2557 * mib := by
    decide +kernel
  rw [hleast] at hfour
  rw [hlogical] at hfive
  exact ⟨hroot, hkeys, hfour, hfive⟩

end Imagewright.Disk
