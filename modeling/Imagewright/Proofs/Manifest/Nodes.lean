import Imagewright.Proofs.Manifest.Accounts
import Imagewright.Proofs.Request.Tree

/-!
# Directories and files of an image

The directories and files of an accepted request are written without a loss. Their owners and modes
are tables by paths, and since each path is asked for once, no entry takes the place of another one.

## Main definitions

* `Manifest.DirectoryWritten`, `Manifest.FileWritten`, `Manifest.OwnersWritten`,
  `Manifest.ModeWritten`: what is written of one directory or file.
* `Manifest.NodesWritten`: what is written of all.

## Main statements

* `Manifest.Entries.foldlM_put_byPath`: items whose paths differ have entries of their own.
* `Manifest.nodes_of_validate`: what is written of the directories and files of an accepted request.
-/
namespace Imagewright.Manifest

open Blueprint (Customizations Directory File)
open Disk (MountpointPolicy)
open Outcome
open Request (IsOctal)

/-! ## What is written -/

/-- A stage as it is written with one option, unless the option is empty. -/
def writtenStage (type option : String) (empty : Bool) (v : Value) : List Value :=
  if empty then []
  else [.obj [("type", .str ("org.osbuild." ++ type)), ("options", .obj [(option, v)])]]

/-- The entry of a directory has the number of its mode, if one is given. -/
structure DirectoryWritten (d : Directory) (v : Value) : Prop where
  path : v.at? "path" = some d.path
  noMode : d.mode = .null → v.at? "mode" = none
  mode : d.mode ≠ .null → ∃ (s : String) (n : Nat), d.mode = s ∧ IsOctal s n ∧ n ≤ 4095 ∧
    v.at? "mode" = some (.int n)
  parents : ∀ field ∈ ["parents", "exist_ok"],
    v.at? field = if d.ensureParents then some (.bool true) else none

/-- The entry of a file has its content. A file without one is empty. -/
structure FileWritten (f : File) (v : Value) : Prop where
  path : v.at? "path" = some f.path
  data : v.at? "data" = some (if f.data.isNull then .str "" else f.data)

/-- A directory or a file with its owners. -/
structure Node where
  path : Value
  user : Value
  group : Value

/-- All directories, and then all files. -/
def nodesOf (c : Customizations) : List Node :=
  (c.directories.map fun d => ⟨d.path, d.user, d.group⟩) ++
    c.files.map fun f => ⟨f.path, f.user, f.group⟩

/-- A user or a group is given. -/
def Node.owned (n : Node) : Bool := !(n.user.isNull && n.group.isNull)

/-- An entry by the path of a directory or a file holds the owners that are given. -/
def OwnersWritten (n : Node) (e : String × Value) : Prop :=
  n.path = e.1 ∧ e.2 = .obj ([("user", n.user), ("group", n.group)].filter (!·.2.isNull))

/-- An entry by the path of a file holds its mode. -/
def ModeWritten (f : File) (e : String × Value) : Prop :=
  f.path = e.1 ∧ e.2 = .obj [("mode", f.mode)]

/-- There is one entry for each directory and file, in their order, and one for each that has owners
or is a file with a mode. -/
structure NodesWritten (c : Customizations) (directories files : List Value)
    (owners modes : Assoc String Value) : Prop where
  made : List.Forall₂ DirectoryWritten c.directories directories
  filled : List.Forall₂ FileWritten c.files files
  owned : List.Forall₂ OwnersWritten ((nodesOf c).filter (·.owned)) owners
  moded : List.Forall₂ ModeWritten (c.files.filter (!·.mode.isNull)) modes
  /-- No entry takes the place of another one. -/
  nodup_owners : owners.keys.Nodup
  nodup_modes : modes.keys.Nodup

/-! ## Tables by paths -/

namespace Entries

theorem foldlM_put_ofTexts (items m : Assoc String (List (String × Value))) :
    (ofTexts items).foldlM (fun entries e => put entries e.1 e.2) (ofTexts m) =
      .ok (ofTexts (items.foldl (fun m e => Assoc.set m e.1 e.2) m)) := by
  induction items generalizing m with
  | nil => rfl
  | cons e items ih =>
    have hput : put (ofTexts m) (.str e.1) e.2 = .ok (ofTexts (m.set e.1 e.2)) :=
      congrArg Except.ok (set_ofTexts e.2)
    rw [ofTexts_cons, List.foldlM_cons, hput, ok_bind, ih, List.foldl_cons]

section

variable {α : Type} {path : α → Value} {fields : α → List (String × Value)} {xs : List α}

/-- Fields by the paths of some items. -/
def byPath (path : α → Value) (fields : α → List (String × Value)) (xs : List α) :
    Assoc String (List (String × Value)) := xs.map fun x => ((path x).text, fields x)

theorem keys_byPath : (byPath path fields xs).keys = xs.map fun x => (path x).text := by
  simp [byPath, Assoc.keys]

theorem ofTexts_byPath (ht : ∀ x ∈ xs, (path x).isText = true) :
    ofTexts (byPath path fields xs) = xs.map fun x => (path x, fields x) := by
  rw [ofTexts, byPath, List.map_map]
  refine List.map_congr_left fun x hx => ?_
  rw [Function.comp_apply, ← Value.eq_text (ht x hx)]

/-- Where the paths differ, each item has an entry of its own. -/
theorem foldlM_put_byPath (ht : ∀ x ∈ xs, (path x).isText = true)
    (hn : (xs.map fun x => (path x).text).Nodup) :
    (xs.map fun x => (path x, fields x)).foldlM (fun entries e => put entries e.1 e.2) [] =
      .ok (ofTexts (byPath path fields xs)) := by
  have hkeys : (byPath path fields xs).keys.Nodup := keys_byPath ▸ hn
  have hset : (byPath path fields xs).foldl (fun m e => Assoc.set m e.1 e.2) [] =
      byPath path fields xs := Assoc.ofList_of_nodup hkeys
  have hfold := foldlM_put_ofTexts (byPath path fields xs) []
  rw [hset, ofTexts_byPath ht] at hfold
  rw [ofTexts_byPath ht]
  exact hfold

theorem forall₂_byPath (ht : ∀ x ∈ xs, (path x).isText = true) :
    List.Forall₂ (fun x e => path x = .str e.1 ∧ e.2 = Value.obj (fields x)) xs
      ((byPath path fields xs).map fun e => (e.1, .obj e.2)) := by
  rw [byPath, List.map_map, List.forall₂_map_right_iff]
  exact List.forall₂_same.2 fun x hx => ⟨Value.eq_text (ht x hx), rfl⟩

end

end Entries

section

variable {c : Customizations}

/-- The owners by paths. -/
def ownerTable (c : Customizations) : Assoc String (List (String × Value)) :=
  Entries.byPath (·.path) (fun n => ownerFields n.user n.group) ((nodesOf c).filter (·.owned))

/-- The modes of files by paths. -/
def modeTable (c : Customizations) : Assoc String (List (String × Value)) :=
  Entries.byPath (·.path) (fun f => [("mode", f.mode)]) (c.files.filter (!·.mode.isNull))

theorem ownerFields_eq (user group : Value) :
    ownerFields user group = [("user", user), ("group", group)].filter (!·.2.isNull) := by
  simp only [ownerFields, givenField_eq, ← List.filter_append]
  rfl

theorem isEmpty_ownerFields (n : Node) : (!(ownerFields n.user n.group).isEmpty) = n.owned := by
  cases hu : n.user.isNull <;> cases hg : n.group.isNull <;>
    simp [ownerFields, givenField, Node.owned, hu, hg]

theorem isText_owned (hw : c.WellTyped) :
    ∀ n ∈ (nodesOf c).filter (·.owned), n.path.isText = true := by
  intro n hn
  have hn := (List.mem_filter.1 hn).1
  rw [nodesOf, List.mem_append, List.mem_map, List.mem_map] at hn
  rcases hn with ⟨d, hd, rfl⟩ | ⟨f, hf, rfl⟩
  · exact hw.isText_directory hd
  · exact hw.isText_file hf

theorem isText_moded (hw : c.WellTyped) :
    ∀ f ∈ c.files.filter (!·.mode.isNull), f.path.isText = true :=
  fun _ hf => hw.isText_file (List.mem_filter.1 hf).1

/-- The table of owners has one entry for each directory and file with owners. -/
theorem ownership_eq_ok (hw : c.WellTyped) (h : (ownerTable c).keys.Nodup) :
    ownership c = .ok (Entries.ofTexts (ownerTable c)) := by
  have hnodes : (c.directories.map fun d => (d.path, ownerFields d.user d.group)) ++
      (c.files.map fun f => (f.path, ownerFields f.user f.group)) =
        (nodesOf c).map fun n => (n.path, ownerFields n.user n.group) := by
    simp [nodesOf, Function.comp_def]
  have howned : ((!·.2.isEmpty) ∘ fun n : Node => (n.path, ownerFields n.user n.group)) =
      Node.owned := funext isEmpty_ownerFields
  unfold ownership
  simp only
  rw [hnodes, List.filter_map, howned]
  exact Entries.foldlM_put_byPath (isText_owned hw) (Entries.keys_byPath ▸ h)

/-- The table of modes has one entry for each file with a mode. -/
theorem fileModes_eq_ok (hw : c.WellTyped) (h : (modeTable c).keys.Nodup) :
    fileModes c = .ok (Entries.ofTexts (modeTable c)) := by
  have hmap : fileModes c = ((c.files.filter (!·.mode.isNull)).map fun f =>
      (f.path, [("mode", f.mode)])).foldlM (fun entries e => Entries.put entries e.1 e.2) [] := by
    rw [List.foldlM_map]
    rfl
  rw [hmap]
  exact Entries.foldlM_put_byPath (isText_moded hw) (Entries.keys_byPath ▸ h)

/-! ## Stages -/

/-- The entry of a directory with the fields of its mode. -/
theorem directoryWritten_of_mode {d : Directory} {mode : List (String × Value)}
    (hmode : d.mode = .null ∧ mode = [] ∨ ∃ (s : String) (n : Nat), d.mode = s ∧ IsOctal s n ∧
      n ≤ 4095 ∧ mode = [("mode", .int n)]) :
    DirectoryWritten d (.obj ([("path", d.path)] ++ mode ++
      if d.ensureParents then [("parents", .bool true), ("exist_ok", .bool true)] else [])) := by
  rcases hmode with ⟨hnull, rfl⟩ | ⟨s, n, hs, hoctal, hn, rfl⟩
  · refine ⟨rfl, fun _ => ?_, absurd hnull, ?_⟩ <;>
      cases d.ensureParents <;> simp [Value.at?, Assoc.get?]
  · refine ⟨rfl, fun hnull => ?_, fun _ => ⟨s, n, hs, hoctal, hn, rfl⟩, ?_⟩
    · cases hs.symm.trans hnull
    · cases d.ensureParents <;> simp [Value.at?, Assoc.get?]

theorem exists_directoryEntry {d : Directory} (h : Request.checkMode d.mode = .ok ()) :
    ∃ v, directoryEntry d = .ok v ∧ DirectoryWritten d v := by
  cases hn : d.mode.isNull with
  | true =>
    exact ⟨_, directoryEntry_eq_ok.2 ⟨[], by simp [hn], rfl⟩,
      directoryWritten_of_mode (.inl ⟨Value.isNull_iff.1 hn, rfl⟩)⟩
  | false =>
    obtain ⟨s, n, hs, hnumber, hoctal, hle⟩ := exists_modeNumber h hn
    exact ⟨_, directoryEntry_eq_ok.2 ⟨[("mode", .int n)], by simp [hn, hnumber], rfl⟩,
      directoryWritten_of_mode (.inr ⟨s, n, hs, hoctal, hle, rfl⟩)⟩

theorem fileWritten_fileEntry {f : File} (h : f.data.orNull Value.isText = true) :
    FileWritten f (fileEntry f) := by
  refine ⟨rfl, congrArg some ?_⟩
  simp only [Value.orNull, Bool.or_eq_true, Value.isNull_iff, Value.isText_iff] at h
  rcases h with hnull | ⟨s, hs⟩
  · simp [hnull, Value.truthy, Value.isNull]
  · by_cases hempty : s = "" <;> simp [hs, hempty, Value.truthy, Value.isNull]

theorem render_stage (type option : String) (empty : Bool) (v : Value) :
    (if empty then [] else [stage type [(option, v)]]).map (·.render) =
      writtenStage type option empty v := by
  cases empty <;> rfl

/-- A table of entries whose keys differ is written as it is. -/
theorem render_entriesStage (type : String) {m : Assoc String (List (String × Value))}
    (h : m.keys.Nodup) : (entriesStage type (Entries.ofTexts m)).map (·.render) =
      writtenStage type "items" m.isEmpty (.obj (m.map fun e => (e.1, .obj e.2))) := by
  have hempty : (Entries.ofTexts m).isEmpty = m.isEmpty := List.isEmpty_map
  rw [entriesStage, hempty, ← Entries.render_ofTexts h Stage.jsonNullName]
  cases m.isEmpty <;> rfl

/-! ## Accepted requests -/

/-- The paths of directories and files differ, where their tree passes its checks. -/
theorem nodup_paths_nodesOf (hw : c.WellTyped) (h : Request.checkTree c = .ok ()) :
    ((nodesOf c).map (·.path.text)).Nodup := by
  obtain ⟨directories, hd⟩ := Request.exists_texts
    (List.forall_mem_map.2 fun _ => hw.isText_directory)
  obtain ⟨files, hf⟩ := Request.exists_texts (List.forall_mem_map.2 fun _ => hw.isText_file)
  have htexts : ∀ texts : List String, (texts.map Value.str).map Value.text = texts := by
    intro texts
    rw [List.map_map]
    exact List.map_id texts
  have hpaths : (nodesOf c).map (·.path.text) = directories ++ files := by
    rw [← htexts (directories ++ files), List.map_append, ← hd, ← hf]
    simp [nodesOf, Function.comp_def]
  rw [hpaths]
  exact (Request.sited_of_checkTree hd hf h).1.nodup

theorem nodup_keys_ownerTable (h : ((nodesOf c).map (·.path.text)).Nodup) :
    (ownerTable c).keys.Nodup := by
  rw [ownerTable, Entries.keys_byPath]
  exact h.sublist (List.filter_sublist.map _)

theorem nodup_keys_modeTable (h : ((nodesOf c).map (·.path.text)).Nodup) :
    (modeTable c).keys.Nodup := by
  have hfiles : (c.files.map (·.path.text)).Sublist ((nodesOf c).map (·.path.text)) := by
    rw [nodesOf, List.map_append, List.map_map, List.map_map]
    exact List.sublist_append_right ..
  rw [modeTable, Entries.keys_byPath]
  exact h.sublist ((List.filter_sublist.map _).trans hfiles)

/-- The directories and files of an accepted request are written without a loss. -/
theorem nodes_of_validate {policy : MountpointPolicy} {t : Catalog.ImageType} {b : Blueprint}
    {o : Request.Options} {ws : List Request.Warning} (hb : b.WellTyped)
    (hv : Request.validate policy t b o = .ok ws) :
    ∃ ss directories files owners modes, nodeStages b.settings = .ok ss ∧
      ss.map (·.render) =
        writtenStage "mkdir" "paths" directories.isEmpty (.list directories) ++
          writtenStage "inline-files" "files" files.isEmpty (.list files) ++
          writtenStage "chown" "items" owners.isEmpty (.obj owners) ++
          writtenStage "chmod" "items" modes.isEmpty (.obj modes) ∧
      NodesWritten b.settings directories files owners modes := by
  have htree := (Request.validate_eq_ok.1 hv).1.tree
  obtain ⟨-, -, -, -, -, -, -, -, hmodes, -⟩ := Request.checkTree_eq_ok.1 htree
  have hpaths := nodup_paths_nodesOf hb.settings htree
  have howners := nodup_keys_ownerTable hpaths
  have hfileModes := nodup_keys_modeTable hpaths
  obtain ⟨directories, hd, hmade⟩ := exists_mapM_forall₂ fun d hd =>
    exists_directoryEntry (hmodes d hd)
  refine ⟨_, directories, b.settings.files.map fileEntry,
    (ownerTable b.settings).map fun e => (e.1, .obj e.2),
    (modeTable b.settings).map fun e => (e.1, .obj e.2),
    nodeStages_eq_ok.2 ⟨directories, _, _, hd, ownership_eq_ok hb.settings howners,
      fileModes_eq_ok hb.settings hfileModes, rfl⟩, ?_, ⟨hmade, ?_, ?_, ?_, ?_, ?_⟩⟩
  · simp only [List.map_append, render_stage, render_entriesStage, howners, hfileModes,
      List.isEmpty_map]
  · exact List.forall₂_map_right_iff.2 (List.forall₂_same.2 fun f hf =>
      fileWritten_fileEntry (hb.settings.data_file hf))
  · exact (Entries.forall₂_byPath (isText_owned hb.settings)).imp fun _ _ h =>
      ⟨h.1, h.2.trans (congrArg Value.obj (ownerFields_eq ..))⟩
  · exact Entries.forall₂_byPath (isText_moded hb.settings)
  · exact (Assoc.keys_map _ Value.obj).symm ▸ howners
  · exact (Assoc.keys_map _ Value.obj).symm ▸ hfileModes

end

/-- A blueprint that asks for directories and files. -/
def withNodes (directories : List Directory) (files : List File) : Blueprint where
  customizations := some { directories := directories, files := files }

theorem wellTyped_withNodes {directories : List Directory} {files : List File}
    (hd : ∀ d ∈ directories, d.wellTyped = true) (hf : ∀ f ∈ files, f.wellTyped = true) :
    (withNodes directories files).WellTyped :=
  .of_customizations { Customizations.wellTyped_default with directories := hd, files := hf }

theorem nodes_of_validate_qcow2 :
    let b := withNodes [{ path := "/etc/app", mode := "0750", user := "app" }]
      [{ path := "/etc/app/key", group := "app", mode := "0640", data := "k" },
        { path := "/etc/app/empty" }]
    ∃ t ss directories files owners modes,
      Catalog.Fedora.registry.get "fedora-38" "x86_64" "qcow2" = .ok t ∧ b.WellTyped ∧
      Request.validate .standard t.imageType b {} = .ok [] ∧ nodeStages b.settings = .ok ss ∧
      ss.map (·.render) =
        writtenStage "mkdir" "paths" directories.isEmpty (.list directories) ++
          writtenStage "inline-files" "files" files.isEmpty (.list files) ++
          writtenStage "chown" "items" owners.isEmpty (.obj owners) ++
          writtenStage "chmod" "items" modes.isEmpty (.obj modes) ∧
      NodesWritten b.settings directories files owners modes := by
  intro b
  obtain ⟨⟨_, _, ⟨d, h₁, h₂, h₃⟩, _⟩, ht, rfl, rfl, hd, -⟩ := Catalog.Fedora.get_qcow2
  obtain rfl : d = Catalog.Fedora.drafts[14] := hd
  have hb : b.WellTyped := wellTyped_withNodes
    (by simp [Directory.wellTyped, Value.orNull, Value.isNull, Value.isText])
    (by simp [File.wellTyped, Value.orNull, Value.isNull, Value.isText])
  have hv : Request.validate .standard ⟨Catalog.Fedora.drafts[14], h₁, h₂, h₃⟩ b {} = .ok [] := rfl
  obtain ⟨ss, directories, files, owners, modes, hss, hrender, hwritten⟩ := nodes_of_validate hb hv
  exact ⟨_, ss, directories, files, owners, modes, ht, hb, hv, hss, hrender, hwritten⟩

end Imagewright.Manifest
