import Imagewright.Disk.Mountpoint

/-!
# Canonical paths

A path is clean if it is written in the one way in which segments lead to a place from the root.
Then the order of places in the tree can be read off the texts: what is above another place is
written at the front of it, with a slash behind, and is shorter.

## Main definitions

* `Disk.Leads`: segments lead to a path in canonical form.
* `Disk.IsAbove`: a path is a proper ancestor of another one.

## Main statements

* `Disk.isClean_iff`: the clean paths are those that segments lead to.
* `Disk.isAbove_iff_isPrefixOf`: an ancestor is a prefix that ends at a slash.
* `Disk.IsAbove.length_lt`: an ancestor is shorter.
-/
namespace Imagewright

/-! ## Pieces -/

namespace Text

variable {separator : Char}

theorem piecesFrom_of_notMem {s : List Char} (h : separator ∉ s) (piece : List Char) :
    piecesFrom separator piece s = [piece.reverse ++ s] := by
  induction s generalizing piece with
  | nil => simp [piecesFrom]
  | cons c s ih =>
    obtain ⟨hc, hs⟩ := not_or.1 (mt List.mem_cons.2 h)
    have hne : (c == separator) = false := by simpa using Ne.symm hc
    simp [piecesFrom, hne, ih hs]

/-- A text without separators is one piece. -/
theorem pieces_of_notMem {s : List Char} (h : separator ∉ s) : pieces separator s = [s] :=
  piecesFrom_of_notMem h []

theorem piecesFrom_append (piece cs ds : List Char) :
    piecesFrom separator piece (cs ++ separator :: ds) =
      piecesFrom separator piece cs ++ piecesFrom separator [] ds := by
  induction cs generalizing piece with
  | nil => simp [piecesFrom]
  | cons c cs ih =>
    simp only [List.cons_append, piecesFrom]
    split <;> simp [ih]

/-- At a separator, the pieces of a text are those in front of it and those behind. -/
theorem pieces_append (cs ds : List Char) :
    pieces separator (cs ++ separator :: ds) = pieces separator cs ++ pieces separator ds :=
  piecesFrom_append [] cs ds

theorem piecesFrom_ne_nil (piece cs : List Char) : piecesFrom separator piece cs ≠ [] := by
  induction cs generalizing piece with
  | nil => exact List.cons_ne_nil _ _
  | cons c cs ih =>
    simp only [piecesFrom]
    split
    · exact List.cons_ne_nil _ _
    · exact ih _

/-- The pieces of joined segments are the segments. -/
theorem pieces_intercalate {segments : List (List Char)} (h : ∀ s ∈ segments, separator ∉ s)
    (hne : segments ≠ []) :
    pieces separator (List.intercalate [separator] segments) = segments := by
  induction segments with
  | nil => exact absurd rfl hne
  | cons s segments ih =>
    obtain ⟨hs, hrest⟩ := List.forall_mem_cons.1 h
    cases segments with
    | nil => rw [List.intercalate_singleton, pieces_of_notMem hs]
    | cons s' segments =>
      rw [List.intercalate_cons_cons, List.append_assoc, List.singleton_append, pieces_append,
        pieces_of_notMem hs, ih hrest (List.cons_ne_nil _ _), List.singleton_append]

theorem notMem_of_mem_piecesFrom {cs piece p : List Char} (hp : separator ∉ piece)
    (h : p ∈ piecesFrom separator piece cs) : separator ∉ p := by
  induction cs generalizing piece with
  | nil =>
    obtain rfl := List.mem_singleton.1 h
    simpa using hp
  | cons c cs ih =>
    simp only [piecesFrom] at h
    split at h
    · rcases List.mem_cons.1 h with rfl | h
      · simpa using hp
      · exact ih List.not_mem_nil h
    · next hc => exact ih (by simpa [hp] using Ne.symm (by simpa using hc)) h

/-- No piece has a separator in it. -/
theorem notMem_of_mem_pieces {cs p : List Char} (h : p ∈ pieces separator cs) : separator ∉ p :=
  notMem_of_mem_piecesFrom List.not_mem_nil h

/-- What stands in joined segments stands in a segment or in what joins them. -/
theorem mem_of_mem_intercalate {joint : List Char} {segments : List (List Char)} {c : Char}
    (h : c ∈ List.intercalate joint segments) : c ∈ joint ∨ ∃ s ∈ segments, c ∈ s := by
  induction segments with
  | nil => simp at h
  | cons s segments ih =>
    cases segments with
    | nil =>
      rw [List.intercalate_singleton] at h
      exact .inr ⟨s, List.mem_cons_self, h⟩
    | cons s' segments =>
      rw [List.intercalate_cons_cons, List.mem_append, List.mem_append] at h
      rcases h with (h | h) | h
      · exact .inr ⟨s, List.mem_cons_self, h⟩
      · exact .inl h
      · rcases ih h with h | ⟨t, ht, h⟩
        · exact .inl h
        · exact .inr ⟨t, List.mem_cons_of_mem s ht, h⟩

end Text

namespace Disk

open Text

theorem intercalate_append {segments rest : List (List Char)} (hs : segments ≠ [])
    (hr : rest ≠ []) (separator : List Char) :
    List.intercalate separator (segments ++ rest) =
      List.intercalate separator segments ++ separator ++ List.intercalate separator rest := by
  induction segments with
  | nil => exact absurd rfl hs
  | cons s segments ih =>
    cases segments with
    | nil =>
      obtain ⟨r, rest, rfl⟩ := List.exists_cons_of_ne_nil hr
      simp [List.intercalate_cons_cons]
    | cons s' segments =>
      have := ih (List.cons_ne_nil _ _)
      simp only [List.cons_append, List.intercalate_cons_cons] at this ⊢
      rw [this]
      simp

/-! ## Canonical form -/

/-- Segments lead to a path from the root: it is their names with a slash in front of each one, and
none of them stays where it is or goes back. -/
structure Leads (segments : List (List Char)) (path : String) : Prop where
  path_eq : path.toList = '/' :: List.intercalate ['/'] segments
  proper : ∀ s ∈ segments, s ≠ [] ∧ s ≠ ['.'] ∧ s ≠ ['.', '.'] ∧ '/' ∉ s

theorem Leads.pieces_eq {segments : List (List Char)} {path : String} (h : Leads segments path)
    (hne : segments ≠ []) :
    pieces '/' (List.intercalate ['/'] segments) = segments :=
  pieces_intercalate (fun s hs => (h.proper s hs).2.2.2) hne

theorem Leads.eq_root_iff {segments : List (List Char)} {path : String} (h : Leads segments path) :
    path = "/" ↔ segments = [] := by
  constructor
  · intro hroot
    have hempty : List.intercalate ['/'] segments = [] := by
      have hchars := h.path_eq
      rw [hroot] at hchars
      exact (List.cons.inj hchars).2.symm
    refine Decidable.byContradiction fun hne => ?_
    have hpieces := h.pieces_eq hne
    rw [hempty] at hpieces
    exact (h.proper [] (hpieces ▸ List.mem_singleton.2 rfl)).1 rfl
  · rintro rfl
    exact String.toList_inj.1 h.path_eq

/-- Only one list of segments leads to a path. -/
theorem Leads.unique {segments segments' : List (List Char)} {path : String}
    (h : Leads segments path) (h' : Leads segments' path) : segments = segments' := by
  by_cases hroot : path = "/"
  · rw [h.eq_root_iff.1 hroot, h'.eq_root_iff.1 hroot]
  · have hsame := (List.cons.inj (h.path_eq.symm.trans h'.path_eq)).2
    rw [← h.pieces_eq (mt h.eq_root_iff.2 hroot), hsame, h'.pieces_eq (mt h'.eq_root_iff.2 hroot)]

theorem mem_resolve {pieces : List (List Char)} :
    ∀ s ∈ resolve pieces, s ∈ pieces ∧ s ≠ [] ∧ s ≠ ['.'] ∧ s ≠ ['.', '.'] := by
  refine List.foldlRecOn (motive := fun path : List (List Char) =>
    ∀ s ∈ path, s ∈ pieces ∧ s ≠ [] ∧ s ≠ ['.'] ∧ s ≠ ['.', '.']) pieces _ (by simp)
    fun path ih p hp => ?_
  split
  · exact ih
  · next hstays =>
    split
    · exact fun s hs => ih s (List.dropLast_subset _ hs)
    · next hback =>
      rintro s hs
      rcases List.mem_append.1 hs with hs | hs
      · exact ih s hs
      · obtain rfl := List.mem_singleton.1 hs
        simp only [Bool.or_eq_true, beq_iff_eq, not_or] at hstays hback
        exact ⟨hp, hstays.1, hstays.2, hback⟩

theorem resolve_eq_self {segments : List (List Char)}
    (h : ∀ s ∈ segments, s ≠ [] ∧ s ≠ ['.'] ∧ s ≠ ['.', '.']) : resolve segments = segments := by
  have key : ∀ path : List (List Char), segments.foldl (fun path s =>
      if s == [] || s == ['.'] then path
      else if s == ['.', '.'] then path.dropLast
      else path ++ [s]) path = path ++ segments := by
    induction segments with
    | nil => simp
    | cons s segments ih =>
      intro path
      obtain ⟨⟨hempty, hdot, hback⟩, hrest⟩ := List.forall_mem_cons.1 h
      rw [List.foldl_cons, if_neg (by simp [hempty, hdot]), if_neg (by simp [hback]), ih hrest]
      simp
  exact key []

theorem hasDoubleSlash_append {s : List Char} (h : '/' ∉ s) (rest : List Char) :
    hasDoubleSlash (s ++ rest) = hasDoubleSlash rest := by
  induction s with
  | nil => rfl
  | cons c s ih =>
    obtain ⟨hc, hs⟩ := not_or.1 (mt List.mem_cons.2 h)
    rw [List.cons_append, hasDoubleSlash.eq_def]
    split
    · next heq => exact absurd (List.cons.inj heq).1.symm hc
    · next heq => cases heq
    · next heq => rw [← (List.cons.inj heq).2, ih hs]

/-- A slash in front of a name is a single one. -/
theorem hasDoubleSlash_cons {s : List Char} (hne : s ≠ []) (h : '/' ∉ s) (rest : List Char) :
    hasDoubleSlash ('/' :: (s ++ rest)) = hasDoubleSlash rest := by
  obtain ⟨c, s, rfl⟩ := List.exists_cons_of_ne_nil hne
  obtain ⟨hc, -⟩ := not_or.1 (mt List.mem_cons.2 h)
  rw [← hasDoubleSlash_append h rest, List.cons_append, hasDoubleSlash.eq_def]
  split
  · next heq => exact absurd (List.cons.inj (List.cons.inj heq).2).1.symm hc
  · next heq => cases heq
  · next heq => rw [← (List.cons.inj heq).2]

theorem hasDoubleSlash_intercalate {segments : List (List Char)}
    (h : ∀ s ∈ segments, s ≠ [] ∧ '/' ∉ s) :
    hasDoubleSlash ('/' :: List.intercalate ['/'] segments) = false := by
  induction segments with
  | nil => rfl
  | cons s segments ih =>
    obtain ⟨⟨hne, hs⟩, hrest⟩ := List.forall_mem_cons.1 h
    cases segments with
    | nil =>
      rw [List.intercalate_singleton, ← List.append_nil s, hasDoubleSlash_cons hne hs]
      rfl
    | cons s' segments =>
      rw [List.intercalate_cons_cons, List.append_assoc, List.singleton_append,
        hasDoubleSlash_cons hne hs, ih hrest]

theorem Leads.isClean {segments : List (List Char)} {path : String} (h : Leads segments path) :
    isClean path = true := by
  have hslash := hasDoubleSlash_intercalate fun s hs => ⟨(h.proper s hs).1, (h.proper s hs).2.2.2⟩
  have hresolved : resolve (pieces '/' (List.intercalate ['/'] segments)) = segments := by
    by_cases hne : segments = []
    · rw [hne]
      rfl
    · rw [h.pieces_eq hne, resolve_eq_self fun s hs => ?_]
      obtain ⟨hempty, hdot, hback, -⟩ := h.proper s hs
      exact ⟨hempty, hdot, hback⟩
  rw [Disk.isClean, h.path_eq]
  simp [hslash, hresolved]

/-- A path is clean exactly if segments lead to it. -/
theorem isClean_iff {path : String} : isClean path = true ↔ ∃ segments, Leads segments path := by
  refine ⟨fun h => ?_, fun ⟨_, h⟩ => h.isClean⟩
  rw [isClean] at h
  split at h
  · next rest hpath =>
    simp only [Bool.and_eq_true, beq_iff_eq] at h
    refine ⟨resolve (pieces '/' rest), by rw [h.2, hpath], fun s hs => ?_⟩
    obtain ⟨hs, hempty, hdot, hback⟩ := mem_resolve s hs
    exact ⟨hempty, hdot, hback, notMem_of_mem_pieces hs⟩
  · cases h

/-! ## Ancestors -/

/-- A path in canonical form is a proper ancestor of another one: the segments of the other one lead
on from there. -/
def IsAbove (above path : String) : Prop :=
  ∃ segments rest, rest ≠ [] ∧ Leads segments above ∧ Leads (segments ++ rest) path

section

variable {segments segments' rest : List (List Char)} {above path : String}

/-- On the way down from a place that is not the root, the text goes on behind a slash. -/
theorem Leads.toList_append (h : Leads segments above) (h' : Leads (segments ++ rest) path)
    (hs : segments ≠ []) (hr : rest ≠ []) :
    path.toList = above.toList ++ ['/'] ++ List.intercalate ['/'] rest := by
  rw [h'.path_eq, h.path_eq, intercalate_append hs hr]
  simp

/-- An ancestor that is not the root is written in front of what is below it, with a slash behind.
-/
theorem isAbove_iff_isPrefixOf (ha : Leads segments above) (hroot : above ≠ "/")
    (hp : Leads segments' path) :
    IsAbove above path ↔ (above.toList ++ ['/']).isPrefixOf path.toList = true := by
  have hs : segments ≠ [] := mt ha.eq_root_iff.2 hroot
  rw [List.isPrefixOf_iff_prefix]
  constructor
  · rintro ⟨segments₀, rest, hr, h, h'⟩
    obtain rfl := h.unique ha
    exact ⟨_, (h.toList_append h' hs hr).symm⟩
  · rintro ⟨behind, hbehind⟩
    have hjoined : List.intercalate ['/'] segments' =
        List.intercalate ['/'] segments ++ '/' :: behind := by
      rw [hp.path_eq, ha.path_eq] at hbehind
      simpa using (List.cons.inj hbehind).2.symm
    have hs' : segments' ≠ [] := by
      rintro rfl
      simp at hjoined
    have hsplit : segments' = segments ++ pieces '/' behind := by
      rw [← hp.pieces_eq hs', hjoined, pieces_append, ha.pieces_eq hs]
    exact ⟨segments, pieces '/' behind, piecesFrom_ne_nil _ _, ha, hsplit ▸ hp⟩

/-- An ancestor is shorter. -/
theorem IsAbove.length_lt (h : IsAbove above path) : above.length < path.length := by
  obtain ⟨segments, rest, hr, ha, hp⟩ := h
  rw [← String.length_toList, ← String.length_toList]
  by_cases hs : segments = []
  · subst hs
    have hne : path ≠ "/" := mt hp.eq_root_iff.1 hr
    have hbehind : List.intercalate ['/'] rest ≠ [] := fun hempty =>
      hne (String.toList_inj.1 (hp.path_eq.trans (by rw [List.nil_append, hempty]; rfl)))
    rw [ha.path_eq, hp.path_eq]
    simpa [List.length_pos_iff] using hbehind
  · rw [ha.toList_append hp hs hr]
    simp only [List.length_append, List.length_singleton]
    omega

end

end Disk
end Imagewright
