import Imagewright.Proofs.Disk.Identifiers

/-!
# The steps of planning

What each step of planning a disk does to the partitions: arranging, giving what is left of the disk
to the root partition, nesting the logical partitions, and giving places.

## Main definitions

* `Disk.grown`, `Disk.added`: the two kinds of partitions of a planned disk.
* `Disk.NoExtended`, `Disk.HasRoot`: what the steps rely on.

## Main statements

* `Disk.arrange_eq_ok`, `Disk.layOut_eq_ok`, `Disk.nest_eq`: the results of the steps.
* `Disk.succeeds_arrange`, `Disk.layOut_eq_error`: what the steps can fail for.
* `Disk.size_layOut`: what is given to the root partition makes the partitions fill the disk.
-/
namespace Imagewright.Disk

/-- No partition holds logical ones. -/
def NoExtended (ps : List Partition) : Prop := ∀ p ∈ ps, p.isExtended = false

/-- A partition is mounted at the root. -/
def HasRoot (ps : List Partition) : Prop := ∃ p ∈ ps, p.isMountedAt "/" = true

/-! ## Arranging -/

/-- The partitions of a table, grown to what is asked for. -/
def grown (base : PartitionTable) (requests : List SizedPath) (required : Assoc String Int) :
    List Partition :=
  base.partitions.map (growExisting (largestRequests requests) required)

/-- The partitions that a table does not have yet. -/
def added (base : PartitionTable) (requests : List SizedPath) (required : Assoc String Int) :
    List Partition :=
  ((largestRequests requests).filter fun r => (base.findIdx? r.1).isNone).map fun r =>
    newPartition base.label required r.1 r.2

theorem arrange_eq_ok {base : PartitionTable} {requests : List SizedPath}
    {required : Assoc String Int} {ps : List Partition} :
    arrange base requests required = .ok ps ↔
      (∀ m ∈ base.mountpoints, m.isAtomic = true) ∧ ∃ root, base.findIdx? "/" = some root ∧
        (grown base requests required).take root ++ added base requests required ++
          (grown base requests required).drop root = ps := by
  unfold arrange
  by_cases hm : ∀ m ∈ base.mountpoints, m.isAtomic = true
  · have hn : base.mountpoints.any (!·.isAtomic) = false := by simpa using hm
    cases hr : base.findIdx? "/" with
    | none => simp [hn, throw, throwThe, MonadExceptOf.throw]
    | some root =>
      simp only [hn, Bool.false_eq_true, if_false, Outcome.pure_eq_ok, Option.some.injEq,
        exists_eq_left', grown, added, List.append_assoc]
      exact ⟨fun h => ⟨hm, h⟩, fun h => h.2⟩
  · have hn : base.mountpoints.any (!·.isAtomic) = true := by simpa using hm
    simp [hn, hm, bind, Except.bind, throw, throwThe, MonadExceptOf.throw]

/-- A table can be arranged if it has a root partition and its mountpoints can be keys. -/
theorem succeeds_arrange {base : PartitionTable} (hr : HasRoot base.partitions)
    (hm : ∀ m ∈ base.mountpoints, m.isAtomic = true) (requests : List SizedPath)
    (required : Assoc String Int) : Outcome.Succeeds (arrange base requests required) := by
  obtain ⟨root, hroot⟩ : ∃ root, base.findIdx? "/" = some root := by
    rw [← Option.isSome_iff_exists, PartitionTable.findIdx?, List.findIdx?_isSome, List.any_eq_true]
    exact hr
  exact ⟨_, arrange_eq_ok.2 ⟨hm, root, hroot, rfl⟩⟩

theorem growExisting_type (requested required : Assoc String Int) (p : Partition) :
    (growExisting requested required p).type = p.type := by
  unfold growExisting
  split <;> rfl

theorem growExisting_filesystem (requested required : Assoc String Int) (p : Partition) :
    (growExisting requested required p).filesystem = p.filesystem := by
  unfold growExisting
  split <;> rfl

theorem mem_of_arrange {base : PartitionTable} {requests : List SizedPath}
    {required : Assoc String Int} {ps : List Partition}
    (h : arrange base requests required = .ok ps) {p : Partition} :
    p ∈ ps ↔ p ∈ grown base requests required ∨ p ∈ added base requests required := by
  obtain ⟨-, root, -, rfl⟩ := arrange_eq_ok.1 h
  rw [List.mem_append, List.mem_append, or_right_comm, ← List.mem_append, List.take_append_drop]

theorem noExtended_added (base : PartitionTable) (requests : List SizedPath)
    (required : Assoc String Int) : NoExtended (added base requests required) := by
  intro p hp
  obtain ⟨r, -, rfl⟩ := List.mem_map.1 hp
  cases hl : base.label <;> simp [newPartition, Partition.isExtended, Label.dataType] <;> decide

theorem noExtended_arrange {base : PartitionTable} {requests : List SizedPath}
    {required : Assoc String Int} {ps : List Partition}
    (h : arrange base requests required = .ok ps) (hb : NoExtended base.partitions) :
    NoExtended ps := by
  intro p hp
  rcases (mem_of_arrange h).1 hp with hp | hp
  · obtain ⟨q, hq, rfl⟩ := List.mem_map.1 hp
    rw [Partition.isExtended, growExisting_type]
    exact hb q hq
  · exact noExtended_added base requests required p hp

theorem hasRoot_arrange {base : PartitionTable} {requests : List SizedPath}
    {required : Assoc String Int} {ps : List Partition}
    (h : arrange base requests required = .ok ps) : HasRoot ps := by
  obtain ⟨-, root, hr, -⟩ := arrange_eq_ok.1 h
  obtain ⟨hlt, hroot, -⟩ := List.findIdx?_eq_some_iff_getElem.1 hr
  refine ⟨_, (mem_of_arrange h).2 (.inl (List.mem_map_of_mem (List.getElem_mem hlt))), ?_⟩
  rwa [Partition.isMountedAt, Partition.mountpoint?, growExisting_filesystem]

/-! ## Giving what is left to the root partition -/

theorem map_growRoot {β : Type} {g : Partition → β} (h : ∀ p extra, g (p.growBy extra) = g p)
    (extra : Nat) (ps : List Partition) : (growRoot extra ps).map g = ps.map g := by
  induction ps with
  | nil => rfl
  | cons p ps ih => simp only [growRoot]; split <;> simp [ih, h]

@[simp] theorem length_growRoot (extra : Nat) (ps : List Partition) :
    (growRoot extra ps).length = ps.length := by
  simpa using congrArg List.length (map_growRoot (g := fun _ => ()) (fun _ _ => rfl) extra ps)

theorem totalSize_growRoot {ps : List Partition} (h : HasRoot ps) (extra : Nat) :
    totalSize (growRoot extra ps) = totalSize ps + extra := by
  induction ps with
  | nil =>
    obtain ⟨p, hp, -⟩ := h
    cases hp
  | cons p ps ih =>
    simp only [growRoot]
    split
    · simp only [totalSize, Partition.growBy_size]
      omega
    · next hp =>
      obtain ⟨q, hq, hr⟩ := h
      obtain rfl | hq := List.mem_cons.1 hq
      · contradiction
      · simp only [totalSize, ih ⟨q, hq, hr⟩]
        omega

theorem noExtended_growRoot (extra : Nat) {ps : List Partition} (h : NoExtended ps) :
    NoExtended (growRoot extra ps) := by
  have key : ∀ b ∈ (growRoot extra ps).map Partition.isExtended, b = false := by
    rw [map_growRoot fun _ _ => rfl]
    simpa [NoExtended] using h
  simpa [NoExtended] using key

/-! ## Giving places -/

/-- The bytes that partitions take up side by side, with the boot record behind each one that is
inside an extended partition. -/
def spread (inside : Bool) (ps : List Partition) : Int :=
  totalSize ps + if inside then ps.length * bootRecordSize else 0

theorem place_append {a : Int} {inside : Bool} {ps : List Partition} (h : NoExtended ps)
    (qs : List Partition) :
    place a inside (ps ++ qs) = place a inside ps ++ place (a + spread inside ps) inside qs := by
  induction ps generalizing a with
  | nil => cases inside <;> simp [place, spread, totalSize]
  | cons p ps ih =>
    obtain ⟨hp, hps⟩ := List.forall_mem_cons.1 h
    simp only [List.cons_append, place, hp, ih hps, List.cons.injEq, true_and]
    cases inside <;> simp [spread, totalSize] <;> grind

/-- Places change nothing but places. -/
theorem map_place {β : Type} {g : Partition → β} (h : ∀ p a, g { p with start := a } = g p)
    {a : Int} {inside : Bool} (ps : List Partition) : (place a inside ps).map g = ps.map g := by
  induction ps generalizing a inside with
  | nil => rfl
  | cons p ps ih => simp only [place]; split <;> simp [ih, h]

@[simp] theorem length_place {a : Int} {inside : Bool} (ps : List Partition) :
    (place a inside ps).length = ps.length := by
  simpa using congrArg List.length (map_place (g := fun _ => ()) (fun _ _ => rfl) ps)

theorem any_isExtended_place {a : Int} {inside : Bool} (ps : List Partition) :
    (place a inside ps).any (·.isExtended) = ps.any (·.isExtended) := by
  have h : (place a inside ps).map Partition.isExtended = ps.map Partition.isExtended :=
    map_place (fun _ _ => rfl) ps
  simpa using congrArg (·.any id) h

/-! ## Laying out -/

theorem totalSize_append (ps qs : List Partition) :
    totalSize (ps ++ qs) = totalSize ps + totalSize qs := by
  induction ps with
  | nil => simp [totalSize]
  | cons p ps ih => simp only [List.cons_append, totalSize, ih]; omega

theorem layOut_eq_ok {base : PartitionTable} {ps : List Partition} {imageSize : Int}
    {strict : Bool} {t : PartitionTable} :
    layOut base ps imageSize strict = .ok t ↔
      (strict = true → neededSize base.label ps ≤ alignUp imageSize) ∧
      { label := base.label
        partitions := place headerSize false (
          if logicalCount base.label ps = 0 then
            growRoot (alignUp imageSize - neededSize base.label ps).toNat ps
          else
            nest (logicalCount base.label ps)
              (growRoot (alignUp imageSize - neededSize base.label ps).toNat ps))
        size := max (alignUp imageSize) (neededSize base.label ps) } = t := by
  unfold layOut
  by_cases hs : strict = true ∧ alignUp imageSize < neededSize base.label ps
  · have hn : ¬(strict = true → neededSize base.label ps ≤ alignUp imageSize) := fun h => by
      have := h hs.1
      omega
    exact iff_of_false (by simp [hs]) fun h => hn h.1
  · rw [not_and, Int.not_lt] at hs
    have hn : (strict && decide (alignUp imageSize < neededSize base.label ps)) = false := by
      simpa using hs
    simp only [hn, Bool.false_eq_true, if_false, Except.ok.injEq, beq_iff_eq]
    exact ⟨fun h => ⟨hs, h⟩, fun h => h.2⟩

/-- Only a strict size that is too small keeps partitions from being laid out. -/
theorem layOut_eq_error {base : PartitionTable} {ps : List Partition} {imageSize : Int}
    {strict : Bool} {e : PlanError} :
    layOut base ps imageSize strict = .error e ↔
      strict = true ∧ alignUp imageSize < neededSize base.label ps ∧
        .insufficient (neededSize base.label ps) imageSize = e := by
  unfold layOut
  by_cases hs : strict = true ∧ alignUp imageSize < neededSize base.label ps
  · simp [hs]
  · have hn : (strict && decide (alignUp imageSize < neededSize base.label ps)) = false := by
      simpa using hs
    simp only [hn, Bool.false_eq_true, if_false, reduceCtorEq, false_iff]
    exact fun h => hs ⟨h.1, h.2.1⟩

/-- What is given to the root partition makes the partitions fill the disk. -/
theorem size_layOut (label : Label) {ps : List Partition} (hr : HasRoot ps) (imageSize : Int) :
    headerSize + totalSize (growRoot (alignUp imageSize - neededSize label ps).toNat ps) +
        logicalCount label ps * bootRecordSize =
      max (alignUp imageSize) (neededSize label ps) - footerSize label := by
  rw [totalSize_growRoot hr]
  have := neededSize.eq_def label ps
  omega

theorem logicalCount_eq_zero_or (label : Label) (ps : List Partition) :
    logicalCount label ps = 0 ∨
      label = .dos ∧ ps.length - logicalCount label ps = 3 ∧ 4 < ps.length := by
  cases label with
  | gpt => simp [logicalCount]
  | dos =>
    by_cases h : 4 < ps.length
    · simp [logicalCount, primarySlots, h]
      omega
    · simp [logicalCount, primarySlots, h]

theorem mem_nest {logical : Nat} {ps : List Partition} {p : Partition} (h : p ∈ nest logical ps) :
    p ∈ ps ∨ ∃ hne, p = extendedAround (ps.drop (ps.length - logical)) hne := by
  simp only [nest] at h
  split at h
  · rcases List.mem_append.1 h with hp | hp
    · exact .inl (List.mem_of_mem_take hp)
    · rcases List.mem_cons.1 hp with rfl | hp
      · exact .inr ⟨_, rfl⟩
      · exact .inl (List.mem_of_mem_drop hp)
  · exact .inl h

/-- With logical partitions, three of the primary slots hold partitions of their own and the fourth
one the extended partition. -/
theorem nest_eq {label : Label} {ps qs : List Partition} (hlen : qs.length = ps.length)
    (hl : logicalCount label ps ≠ 0) :
    ∃ hne : qs.drop 3 ≠ [], nest (logicalCount label ps) qs =
      qs.take 3 ++ extendedAround (qs.drop 3) hne :: qs.drop 3 := by
  obtain ⟨-, hthree, hn⟩ := (logicalCount_eq_zero_or label ps).resolve_left hl
  have hne : qs.drop 3 ≠ [] := by
    rw [Ne, List.drop_eq_nil_iff]
    omega
  refine ⟨hne, ?_⟩
  simp only [nest, hlen, hthree]
  exact dif_pos hne

end Imagewright.Disk
