import Imagewright.Ini.Reader
import Imagewright.Proofs.Assoc
import Imagewright.Proofs.Outcome
import Mathlib.Data.List.Basic

/-!
# What reading a document brings about

A document starts with a header: what stands in front of the first one are comments and blank lines.
And a value refers to other options by a percent sign only, so a document of a text without one has
no references, and every value in it stands for itself.

## Main definitions

* `Ini.firstLine?`: the first line that says something.
* `Ini.Plain`: a text without references.
* `Ini.State.PlainValues`: no line of a value that is being read has a reference.

## Main statements

* `Ini.read_eq_missingHeader`: which texts are rejected as having no header.
* `Ini.State.PlainValues.step`: a line without references brings no references.
* `Ini.plainValues_read`: no value of the document of a plain text has a reference.
* `Ini.Document.PlainValues.value?`: without references every option has its value as written.
-/
namespace Imagewright.Ini

/-! ## Headers -/

/-- The line is neither blank nor a comment. -/
def saysSomething (line : List Char) : Bool :=
  match Text.trim line with
  | [] | '#' :: _ | ';' :: _ => false
  | _ => true

/-- The first line that says something. -/
def firstLine? (text : String) : Option (List Char) := (Text.splitLines text).find? saysSomething

namespace State

variable {st st' : State} {line : List Char}

theorem open_ne_missingHeader {name : String} : st.open name ≠ .error .missingHeader := by
  unfold State.open
  split
  · nofun
  · split <;> nofun

theorem isSome_current_of_open {name : String} (h : st.open name = .ok st') :
    st'.current.isSome := by
  unfold State.open at h
  split at h
  · obtain rfl := Except.ok.inj h
    rfl
  · split at h
    · cases h
    · obtain rfl := Except.ok.inj h
      rfl

theorem current_changeSection (name : String) (change : Draft → Draft) :
    (st.changeSection name change).current = st.current := by
  unfold State.changeSection
  split <;> rfl

theorem current_addLine (text : String) : (st.addLine text).current = st.current := by
  unfold State.addLine
  split
  · split
    · exact current_changeSection _ _
    · rfl
  · rfl

theorem current_of_setOption {name option value : String}
    (h : st.setOption name option value = .ok st') : st'.current = st.current := by
  unfold State.setOption at h
  split at h
  · cases h
  · obtain rfl := Except.ok.inj h
    exact current_changeSection _ _

theorem setOption_ne_missingHeader {name option value : String} :
    st.setOption name option value ≠ .error .missingHeader := by
  unfold State.setOption
  split <;> nofun

/-- In front of the first header a line that says nothing changes nothing. -/
theorem step_of_not_saysSomething (h : st.current = none) (hline : saysSomething line = false) :
    st.step line = .ok st := by
  have hadd : st.addLine "" = st := by simp [State.addLine, h]
  unfold saysSomething at hline
  unfold State.step
  split at hline <;> simp_all

/-- In front of the first header a line that says something has to be a header. -/
theorem step_of_saysSomething (h : st.current = none) (hline : saysSomething line = true) :
    st.step line =
      match header? (Text.trim line) with
      | some name => { st with indent := (line.takeWhile Text.isBlank).length }.open name
      | none => .error .missingHeader := by
  unfold saysSomething at hline
  unfold State.step
  split at hline
  · cases hline
  · cases hline
  · cases hline
  · cases hheader : header? (Text.trim line) <;> simp [h, hheader]

/-- Behind a header no header is missed. -/
theorem step_of_isSome_current (line : List Char) (h : st.current.isSome) :
    st.step line ≠ .error .missingHeader ∧ ∀ st', st.step line = .ok st' → st'.current.isSome := by
  unfold State.step
  simp only
  split
  · exact ⟨nofun, fun st' hst => Except.ok.inj hst ▸ (current_addLine "").symm ▸ h⟩
  · exact ⟨nofun, fun st' hst => Except.ok.inj hst ▸ h⟩
  · exact ⟨nofun, fun st' hst => Except.ok.inj hst ▸ h⟩
  · split
    · exact ⟨nofun, fun st' hst => Except.ok.inj hst ▸ (current_addLine _).symm ▸ h⟩
    · split
      · exact ⟨open_ne_missingHeader, fun st' hst => isSome_current_of_open hst⟩
      · split
        · next hnone => simp [hnone] at h
        · split
          · refine ⟨setOption_ne_missingHeader, fun st' hst => ?_⟩
            rw [current_of_setOption hst]
            exact h
          · exact ⟨nofun, fun st' hst => Except.ok.inj hst ▸ h⟩

theorem foldlM_step_ne_missingHeader {lines : List (List Char)} (h : st.current.isSome) :
    lines.foldlM State.step st ≠ .error .missingHeader := by
  induction lines generalizing st with
  | nil => nofun
  | cons line rest ih =>
    obtain ⟨hne, hkeeps⟩ := step_of_isSome_current line h
    rw [List.foldlM_cons, ne_eq, Outcome.bind_eq_error]
    exact not_or.2 ⟨hne, fun ⟨st', hst, hrest⟩ => ih (hkeeps st' hst) hrest⟩

theorem foldlM_step_eq_missingHeader {lines : List (List Char)} (h : st.current = none) :
    lines.foldlM State.step st = .error .missingHeader ↔
      ∃ line, lines.find? saysSomething = some line ∧ header? (Text.trim line) = none := by
  induction lines generalizing st with
  | nil => simp [pure, Except.pure]
  | cons line rest ih =>
    rw [List.foldlM_cons]
    cases hline : saysSomething line with
    | false =>
      rw [step_of_not_saysSomething h hline, Outcome.ok_bind, ih h,
        List.find?_cons_of_neg (by simp [hline])]
    | true =>
      rw [step_of_saysSomething h hline, List.find?_cons_of_pos hline]
      simp only [Option.some.injEq, exists_eq_left']
      cases hheader : header? (Text.trim line) with
      | none => simp
      | some name =>
        simp only [Outcome.bind_eq_error, reduceCtorEq, iff_false]
        exact not_or.2 ⟨open_ne_missingHeader, fun ⟨st', hst, hrest⟩ =>
          foldlM_step_ne_missingHeader (isSome_current_of_open hst) hrest⟩

end State

/-- A text has no header if the first line that says something is none. -/
theorem read_eq_missingHeader {text : String} : read text = .error .missingHeader ↔
    ∃ line, firstLine? text = some line ∧ header? (Text.trim line) = none := by
  rw [read, Outcome.bind_eq_error, State.foldlM_step_eq_missingHeader rfl, firstLine?,
    or_iff_left]
  rintro ⟨st, -, h⟩
  split at h <;> cases h

/-! ## Texts without references -/

/-- A text without references. -/
def Plain (s : String) : Prop := '%' ∉ s.toList

theorem mem_of_mem_trimEnd {cs : List Char} {c : Char} (h : c ∈ Text.trimEnd cs) : c ∈ cs :=
  List.mem_reverse.1 ((List.dropWhile_sublist _).subset (List.mem_reverse.1 h))

theorem mem_of_mem_trim {cs : List Char} {c : Char} (h : c ∈ Text.trim cs) : c ∈ cs :=
  (List.dropWhile_sublist _).subset (mem_of_mem_trimEnd h)

theorem plain_ofList {cs : List Char} : Plain (String.ofList cs) ↔ '%' ∉ cs := by
  rw [Plain, String.toList_ofList]

/-- A line holds characters of its text. -/
theorem mem_of_mem_linesFrom {line cs l : List Char} {c : Char} (hl : l ∈ Text.linesFrom line cs)
    (hc : c ∈ l) : c ∈ line ∨ c ∈ cs := by
  fun_induction Text.linesFrom line cs with
  | case1 line => simp_all
  | case2 line rest ih =>
    rcases List.mem_cons.1 hl with rfl | hl
    · exact .inl (List.mem_reverse.1 hc)
    · have := ih hl
      simp_all
  | case3 line d rest _ _ ih =>
    rcases List.mem_cons.1 hl with rfl | hl
    · exact .inl (List.mem_reverse.1 hc)
    · have := ih hl
      simp_all
  | case4 line d rest _ _ ih =>
    rcases ih hl with hline | hrest
    · exact (List.mem_cons.1 hline).elim (fun h => .inr (h ▸ List.mem_cons_self)) .inl
    · exact .inr (List.mem_cons_of_mem _ hrest)

theorem plain_of_mem_splitLines {s : String} (hs : Plain s) {line : List Char}
    (h : line ∈ Text.splitLines s) : '%' ∉ line := fun hc =>
  (mem_of_mem_linesFrom h hc).elim List.not_mem_nil hs

theorem plain_intercalate {separator : String} {lines : List String} (hs : Plain separator)
    (h : ∀ line ∈ lines, Plain line) : Plain (separator.intercalate lines) := by
  unfold Plain at *
  rw [String.toList_intercalate]
  induction lines with
  | nil => simp
  | cons line rest ih =>
    obtain ⟨hline, hrest⟩ := List.forall_mem_cons.1 h
    cases rest with
    | nil => simpa using hline
    | cons next rest => simp_all

/-! ## Values that are being read -/

/-- No line of a value under construction has a reference. -/
def Draft.PlainValues (d : Draft) : Prop := ∀ lines ∈ d.values, ∀ line ∈ lines, Plain line

/-- No line of a value that is being read has a reference. -/
structure State.PlainValues (st : State) : Prop where
  sections : ∀ d ∈ st.sections.values, Draft.PlainValues d
  defaults : Draft.PlainValues st.defaults

theorem Draft.PlainValues.set {d : Draft} (hd : d.PlainValues) {option : String}
    {lines : List String} (hlines : ∀ line ∈ lines, Plain line) :
    Draft.PlainValues (d.set option lines) := fun ls hls =>
  (Assoc.mem_values_set hls).elim (hd ls) fun h => h ▸ hlines

theorem Draft.PlainValues.get? {d : Draft} (hd : d.PlainValues) {option : String}
    {lines : List String} (h : Assoc.get? d option = some lines) : ∀ line ∈ lines, Plain line :=
  hd lines (Assoc.mem_values_of_get? h)

/-- The value of an option is part of its line. -/
theorem plain_of_option? {line : List Char} (hline : '%' ∉ line) {name value : String}
    (h : option? line = some (name, value)) : Plain value := by
  unfold option? at h
  simp only at h
  split at h
  · cases h
  · next delimiter rest hrest =>
    obtain ⟨-, rfl⟩ := Prod.mk.inj (Option.some.inj h)
    refine plain_ofList.2 fun hc => hline ?_
    have hmem : '%' ∈ delimiter :: rest := List.mem_cons_of_mem _ (mem_of_mem_trim hc)
    rw [← hrest] at hmem
    exact (List.dropWhile_sublist _).subset hmem

namespace State.PlainValues

variable {st : State} (hst : st.PlainValues)

include hst

theorem getD (name : String) : Draft.PlainValues ((st.sections.get? name).getD []) := by
  cases h : st.sections.get? name with
  | none => exact fun _ hls => (nomatch hls)
  | some d => exact hst.sections d (Assoc.mem_values_of_get? h)

theorem changeSection {change : Draft → Draft}
    (hchange : ∀ d, Draft.PlainValues d → Draft.PlainValues (change d)) (name : String) :
    (st.changeSection name change).PlainValues := by
  unfold State.changeSection
  split
  · exact ⟨hst.sections, hchange _ hst.defaults⟩
  · refine ⟨fun d hd => ?_, hst.defaults⟩
    rcases Assoc.mem_values_set hd with hd | rfl
    · exact hst.sections d hd
    · exact hchange _ (hst.getD name)

theorem lines? {name option : String} {lines : List String}
    (h : st.lines? name option = some lines) : ∀ line ∈ lines, Plain line := by
  unfold State.lines? at h
  split at h
  · exact hst.defaults.get? h
  · obtain ⟨d, hd, hget⟩ := Option.bind_eq_some_iff.1 h
    exact (hst.sections d (Assoc.mem_values_of_get? hd)).get? hget

theorem addLine {line : String} (hline : Plain line) : (st.addLine line).PlainValues := by
  unfold State.addLine
  split
  · split
    · next hlines =>
      refine hst.changeSection (fun d hd => hd.set ?_) _
      exact List.forall_mem_cons.2 ⟨hline, hst.lines? hlines⟩
    · exact hst
  · exact hst

theorem opened {name : String} {st' : State} (h : st.open name = .ok st') : st'.PlainValues := by
  unfold State.open at h
  split at h
  · obtain rfl := Except.ok.inj h
    exact ⟨hst.sections, hst.defaults⟩
  · split at h
    · cases h
    · obtain rfl := Except.ok.inj h
      refine ⟨fun d hd => ?_, hst.defaults⟩
      rcases Assoc.mem_values_set hd with hd | rfl
      · exact hst.sections d hd
      · exact fun _ hls => (nomatch hls)

theorem setOption {name option value : String} (hvalue : Plain value) {st' : State}
    (h : st.setOption name option value = .ok st') : st'.PlainValues := by
  unfold State.setOption at h
  split at h
  · cases h
  · obtain rfl := Except.ok.inj h
    have hchange : ∀ d, Draft.PlainValues d → Draft.PlainValues (d.set option [value]) :=
      fun d hd => hd.set (List.forall_mem_singleton.2 hvalue)
    have hset := hst.changeSection hchange name
    exact ⟨hset.sections, hset.defaults⟩

/-- A line without references brings no references. -/
theorem step {line : List Char} (hline : '%' ∉ line) {st' : State}
    (h : st.step line = .ok st') : st'.PlainValues := by
  have hcontent : '%' ∉ Text.trim line := fun hc => hline (mem_of_mem_trim hc)
  unfold State.step at h
  simp only at h
  split at h
  · obtain rfl := Except.ok.inj h
    exact hst.addLine (by simp [Plain])
  · obtain rfl := Except.ok.inj h
    exact hst
  · obtain rfl := Except.ok.inj h
    exact hst
  · split at h
    · obtain rfl := Except.ok.inj h
      exact hst.addLine (plain_ofList.2 hcontent)
    · -- the indentation says nothing about values
      have hindent : ({ st with indent := (line.takeWhile Text.isBlank).length } :
          State).PlainValues := ⟨hst.sections, hst.defaults⟩
      split at h
      · exact hindent.opened h
      · split at h
        · cases h
        · split at h
          · next option value hoption =>
            refine hindent.setOption ?_ h
            exact plain_of_option? hcontent hoption
          · obtain rfl := Except.ok.inj h
            exact ⟨hst.sections, hst.defaults⟩

end State.PlainValues

/-! ## Documents -/

/-- No value of a document has a reference. -/
structure Document.PlainValues (doc : Document) : Prop where
  sections : ∀ options ∈ doc.sections.values, ∀ value ∈ Assoc.values options, Plain value
  defaults : ∀ value ∈ Assoc.values doc.defaults, Plain value

theorem plain_of_mem_finishDraft {d : Draft} (hd : d.PlainValues) :
    ∀ value ∈ Assoc.values (finishDraft d), Plain value := by
  intro value hvalue
  simp only [finishDraft, Assoc.values, List.map_map, List.mem_map, Function.comp_apply] at hvalue
  obtain ⟨e, he, rfl⟩ := hvalue
  have hlines : ∀ line ∈ e.2.reverse, Plain line := fun line hline =>
    hd e.2 (List.mem_map_of_mem he) line (List.mem_reverse.1 hline)
  exact plain_ofList.2 fun hc =>
    plain_intercalate (by simp [Plain]) hlines (mem_of_mem_trimEnd hc)

/-- A plain text is read as a document without references. -/
theorem plainValues_read {text : String} (ht : Plain text) {doc : Document}
    (h : read text = .ok doc) : doc.PlainValues := by
  obtain ⟨st, hst, h⟩ := Outcome.bind_eq_ok.1 h
  split at h
  · cases h
  · obtain rfl := (Outcome.pure_eq_ok _ _).1 h
    have hvalues : st.PlainValues :=
      Outcome.foldlM_invariant State.PlainValues hst
        ⟨fun _ hd => (nomatch hd), fun _ hls => (nomatch hls)⟩
        fun line hline _ _ hb => hb.step (plain_of_mem_splitLines ht hline)
    refine ⟨fun options hoptions => ?_, plain_of_mem_finishDraft hvalues.defaults⟩
    simp only [Assoc.values, List.map_map, List.mem_map, Function.comp_apply] at hoptions
    obtain ⟨e, he, rfl⟩ := hoptions
    exact plain_of_mem_finishDraft (hvalues.sections e.2 (List.mem_map_of_mem he))

theorem Document.PlainValues.raw? {doc : Document} (hdoc : doc.PlainValues)
    {section_ name value : String} (h : doc.raw? section_ name = some value) : Plain value := by
  unfold Document.raw? at h
  split at h
  · cases h
  · next options hoptions =>
    split at h
    · next v hv =>
      obtain rfl := Option.some.inj h
      exact hdoc.sections options (Assoc.mem_values_of_get? hoptions) _
        (Assoc.mem_values_of_get? hv)
    · exact hdoc.defaults _ (Assoc.mem_values_of_get? h)

/-- Where there are no references, nothing is replaced. -/
theorem replaceFrom_of_plain (reference : String → Except Error String) (out : List Char)
    {cs : List Char} (h : '%' ∉ cs) :
    replaceFrom reference out none cs = .ok (out.reverse ++ cs) := by
  induction cs generalizing out with
  | nil => simp [replaceFrom]
  | cons c rest ih =>
    obtain ⟨hc, hrest⟩ := not_or.1 (mt List.mem_cons.2 h)
    have hne : c ≠ '%' := Ne.symm hc
    simp [replaceFrom, hne, ih _ hrest]

/-- In a document without references every option has its value as it was written. -/
theorem Document.PlainValues.value? {doc : Document} (hdoc : doc.PlainValues)
    (section_ name : String) : doc.value? section_ name = .ok (doc.raw? section_ name) := by
  unfold Document.value?
  split
  · next h => rw [h]
  · next value h =>
    rw [h, maxReferenceDepth, replace, replaceFrom_of_plain _ _ (hdoc.raw? h)]
    simp [Except.map]

end Imagewright.Ini
