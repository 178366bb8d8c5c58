import Imagewright.Packages.RepositoryStore
import Imagewright.Proofs.Blueprint.Containment
import Imagewright.Proofs.Disk.Paths

/-!
# Files of repositories

The repositories of a distribution are looked for in one file of a directory, and the document in it
may hold anything. A look-up is told here operation by operation, with the faults that its handler
knows and those that it does not.

## Main definitions

* `Fault.isCaught`: the faults that the handler around a file knows.
* `Faulting.decodeRepository`: a repository, decoded operation by operation.
* `Faulting.lookUp`: a look-up, and the ways in which it ends without repositories.
* `RepositoryFolder.entriesOf`: what a document lists for an architecture.

## Main statements

* `Faulting.lookUp_eq`: a look-up is the look-up told operation by operation.
* `RepositoryFolder.get_confined`: one file decides, and what it may hold is contained.
* `RepositoryFolder.lookUp_refused_nested`: a name that is too long and a document that nests too
  deep are not.
-/
namespace Imagewright

theorem Text.isAllBlank_of_strip_ne {s : String} (h : ¬ Text.strip s = "") :
    Text.isAllBlank s = false :=
  Bool.eq_false_iff.2 (mt Text.strip_eq_empty_iff.2 h)

theorem Text.ofString?_eq_some {s : String} (h : ¬ Text.strip s = "") :
    Text.NonBlank.ofString? s = some ⟨s, Text.isAllBlank_of_strip_ne h⟩ :=
  dif_pos _

theorem Text.ofString?_eq_none {s : String} (h : Text.strip s = "") :
    Text.NonBlank.ofString? s = none :=
  dif_neg (by simp [Text.strip_eq_empty_iff.1 h])

/-- A handler around a file knows these faults: keys and positions that are not there are not among
them. -/
def Fault.isCaught : Fault → Bool
  | operation | method | rejected _ => true
  | missingKey _ | position _ => false

namespace Faulting

/-! ## Decoding, operation by operation -/

/-- A text as a list of one. -/
def listed : Value → Value
  | .str s => .list [.str s]
  | v => v

/-- A value, or an empty list if it is false. -/
def orNothing (v : Value) : Value := if v.truthy then v else .list []

/-- The fault of an identifier that is empty or blank. -/
def blankId : Fault := .rejected Repository.Defect.blankId.message

/-- An identifier with its blanks taken away. Only texts have a method that does so. -/
def stripId : Value → Except Fault Text.NonBlank
  | .str s =>
    if h : Text.strip s = "" then .error blankId
    else .ok ⟨s, Text.isAllBlank_of_strip_ne h⟩
  | _ => .error .method

def checkId (v : Value) : Except Fault Text.NonBlank :=
  if v.truthy then stripId v else .error blankId

def checkRepository (d : Repository.Draft) : Except Fault Repository := do
  let id ← checkId d.id
  if h : (!d.baseurls.isEmpty || d.metalink.truthy || d.mirrorlist.truthy) = true then
    return { d with id := id, has_source := h }
  else throw (.rejected (Repository.Defect.noSource id.text).message)

def decodeRepository (data : Value) : Except Fault Repository := do
  let baseurl ← getOr data "baseurl" (.list [])
  let baseurls ← getOr data "baseurls" baseurl
  let gpgkey ← getOr data "gpgkey" (.list [])
  let gpgKeys ← getOr data "gpgkeys" gpgkey
  let id ← getOr data "id" .null
  let id ← if id.truthy then pure id else getOr data "name" ""
  let baseurls ← iterate (orNothing (listed baseurls))
  let metalink ← getOr data "metalink" .null
  let mirrorlist ← getOr data "mirrorlist" .null
  let gpgKeys ← iterate (orNothing (listed gpgKeys))
  let gpgcheck ← getOr data "gpgcheck" (.bool false)
  let checkGpg ← getOr data "check_gpg" gpgcheck
  let repoGpgcheck ← getOr data "repo_gpgcheck" (.bool false)
  let checkRepoGpg ← getOr data "check_repo_gpg" repoGpgcheck
  let ignoreSsl ← getOr data "ignore_ssl" (.bool false)
  let packageSets ← itemsAt data "package_sets"
  checkRepository {
    id, baseurls, gpgKeys, packageSets
    metalink := Repository.orNull metalink
    mirrorlist := Repository.orNull mirrorlist
    checkGpg := checkGpg.truthy
    checkRepoGpg := checkRepoGpg.truthy
    ignoreSsl := ignoreSsl.truthy }

/-- How a look-up ends without repositories. -/
inductive LookupFailure where
  /-- An error about what the file holds. -/
  | invalid (message : String)
  /-- A fault that no handler knows. -/
  | unhandled (f : Fault)
  /-- The reader gives up on a container that stands too deep in others. -/
  | nested (c : Json.Container)
  /-- The system refuses to look for the file. -/
  | refused (message : String)

/-- Turns the faults that are known into errors about a file. -/
def catchFaults {α : Type} (path : String) (x : Except Fault α) : Except LookupFailure α :=
  x.mapError fun f =>
    if f.isCaught then .invalid s!"Invalid repository in {path}: {f.text}" else .unhandled f

/-- What a document says about an architecture. -/
def lookIn (path : String) (document : Value) (arch : String) :
    Except LookupFailure (List Repository) :=
  match document with
  | .obj _ => catchFaults path (do (← itemsAt document arch).mapM decodeRepository)
  | _ => .error (.invalid s!"Repository file {path} must map architectures to lists")

def lookUp (f : RepositoryFolder) (distribution arch : String) :
    Except LookupFailure (List Repository) :=
  let path := f.pathOf distribution
  if f.isTooLong distribution then .error (.refused (FileName.tooLongMessage path))
  else
    match f.content? distribution with
    | none => .ok []
    | some content =>
      match Json.read content with
      | .error .malformed =>
        .error (.invalid s!"Invalid JSON in repository file {path}: <syntax error>")
      | .error (.tooManyDigits count) =>
        .error (.invalid (Text.NumeralError.tooManyDigits count).message)
      | .error (.tooDeep c) => .error (.nested c)
      | .ok document => lookIn path document arch

/-! ## What the operations tell -/

/-- An operation tells what a step of decoding a repository does. -/
abbrev Raises {α : Type} : Except Fault α → Except Repository.Defect α → Prop :=
  Tells Fault.isCaught Repository.Defect.message

section Raises

theorem raises_getOr (v : Value) (key : String) (fallback : Value) :
    Raises (getOr v key fallback) (liftM (v.getD key fallback)) :=
  tells_getOr rfl rfl v key fallback

theorem raises_itemsAt (v : Value) (key : String) :
    Raises (itemsAt v key) (liftM (v.itemsAt key)) :=
  tells_itemsAt rfl rfl rfl v key

/-- A field that goes by two names. -/
theorem raises_getEither {α : Type} {v : Value} {key other : String} {fallback : Value}
    {f : Value → Except Fault α} {g : Value → Except Repository.Defect α}
    (h : ∀ w, Raises (f w) (g w)) :
    Raises (getOr v other fallback >>= fun w => getOr v key w >>= f)
      (liftM (Repository.getEither v key other fallback) >>= g) := by
  cases v with
  | obj fields => exact h _
  | _ => exact .error rfl rfl

theorem raises_iterate (v : Value) : Raises (iterate (orNothing v))
    (liftM (if v.truthy then v.items else .ok [])) := by
  unfold orNothing
  split
  · have htells : Raises (iterate v) (v.items.mapError fun _ => .wrongType) :=
      tells_iterate rfl rfl v
    exact htells
  · exact .ok []

theorem raises_decodeList (v : Value) :
    Raises (iterate (orNothing (listed v))) (liftM (Repository.decodeList v)) := by
  cases v with
  | str s => exact .ok [Value.str s]
  | _ => exact raises_iterate _

theorem raises_stripId (s : String) :
    Raises (stripId (.str s)) (Repository.decodeId (.str s)) := by
  by_cases h : Text.strip s = ""
  · simp only [stripId, Repository.decodeId, Text.ofString?_eq_none h, dif_pos h]
    exact .error rfl rfl
  · simp only [stripId, Repository.decodeId, Text.ofString?_eq_some h, dif_neg h]
    exact .ok _

theorem raises_checkId (v : Value) : Raises (checkId v) (Repository.decodeId v) := by
  unfold checkId
  split
  · next htrue =>
    cases v with
    | str s => exact raises_stripId s
    | _ => exact .error rfl (by rw [if_pos htrue]; rfl)
  · next hfalse =>
    cases v with
    | str s =>
      obtain rfl : s = "" := by simpa [Value.truthy] using hfalse
      exact .error rfl rfl
    | _ => exact .error rfl (by rw [if_neg hfalse]; rfl)

theorem raises_checkRepository (d : Repository.Draft) :
    Raises (checkRepository d) (Repository.ofDraft d) := by
  refine (raises_checkId d.id).bind fun id => ?_
  split
  · exact .pure _
  · exact .error rfl rfl

/-- The operations are those of decoding in their order, so the proof goes through them one after
another. -/
theorem raises_decodeRepository (data : Value) :
    Raises (decodeRepository data) (Repository.decode data) := by
  refine raises_getEither fun baseurls => raises_getEither fun gpgKeys =>
    (raises_getOr data _ _).bind fun id => ?_
  split
  all_goals
    refine Tells.bind ?_ fun id => (raises_decodeList baseurls).bind fun _ =>
      (raises_getOr data _ _).bind fun _ => (raises_getOr data _ _).bind fun _ =>
      (raises_decodeList gpgKeys).bind fun _ => raises_getEither fun _ => raises_getEither fun _ =>
      (raises_getOr data _ _).bind fun _ => (raises_itemsAt data _).bind fun _ =>
      raises_checkRepository _
  · exact .pure id
  · exact raises_getOr data _ _

end Raises

/-! ## Look-ups -/

/-- An error of a look-up, as the look-up ends with it. -/
def LookupFailure.ofError : RepositoryFolder.Error → LookupFailure
  | .nameTooLong path => .refused (FileName.tooLongMessage path)
  | .unread (.tooDeep c) => .nested c
  | e => .invalid e.message

theorem catchFaults_of_raises {α : Type} {x : Except Fault α} {y : Except Repository.Defect α}
    (path : String) (h : Raises x y) :
    catchFaults path x = (y.mapError (.badRepository path)).mapError .ofError := by
  cases h with
  | ok a => rfl
  | @error f d handled text =>
    simp only [catchFaults, Except.mapError, handled, if_true, text]
    rfl

theorem lookIn_eq (path : String) (document : Value) (arch : String) :
    lookIn path document arch =
      (RepositoryFolder.repositoriesAt path document (.str arch)).mapError .ofError := by
  cases document with
  | obj fields =>
    exact catchFaults_of_raises path ((raises_itemsAt (.obj fields) arch).bind
      fun entries => .mapM raises_decodeRepository entries)
  | _ => rfl

/-- A look-up is the look-up told operation by operation: its errors are those of the handlers, the
reader and the system, and no fault is left unhandled. -/
theorem lookUp_eq (f : RepositoryFolder) (distribution arch : String) :
    lookUp f distribution arch = (f.get distribution (.str arch)).mapError .ofError := by
  unfold lookUp RepositoryFolder.get
  split
  · rfl
  · cases f.content? distribution with
    | none => rfl
    | some content =>
      simp only [RepositoryFolder.readFile]
      cases Json.read content with
      | ok document => exact lookIn_eq _ document arch
      | error e => cases e <;> rfl

theorem ofError_ne_unhandled (e : RepositoryFolder.Error) (f : Fault) :
    LookupFailure.ofError e ≠ .unhandled f := by
  unfold LookupFailure.ofError
  split <;> exact fun h => LookupFailure.noConfusion h

end Faulting

namespace RepositoryFolder

open Faulting (decodeRepository lookUp)

variable {f : RepositoryFolder} {distribution arch : String} {rs : List Repository}
  {fields : List (String × Value)}

/-! ## One file -/

theorem slash_notMem_last (path : String) : '/' ∉ (FileName.last path).toList := by
  unfold FileName.last
  cases h : (FileName.parts path).getLast? with
  | none => exact List.not_mem_nil
  | some last =>
    obtain ⟨piece, hpiece, rfl⟩ := List.mem_map.1 (List.mem_of_getLast? h)
    rw [Option.getD_some, String.toList_ofList]
    exact Text.notMem_of_mem_pieces (List.mem_filter.1 hpiece).1

/-- A name without slashes is the last part of itself. -/
theorem last_ofList {cs : List Char} (hslash : '/' ∉ cs) (hne : cs ≠ []) (hdot : cs ≠ ['.']) :
    FileName.last (String.ofList cs) = String.ofList cs := by
  simp [FileName.last, FileName.parts, Text.pathParts, Text.pieces_of_notMem hslash, hne, hdot]

theorem slash_notMem_fileName (distribution : String) :
    '/' ∉ (fileName distribution).toList := by
  rw [fileName, String.toList_append, List.mem_append, not_or]
  exact ⟨slash_notMem_last distribution, by decide⟩

/-- Nothing but the file of a distribution decides what a look-up gives. -/
theorem get_congr {g : RepositoryFolder} (hpath : g.path = f.path)
    (havailable : g.isAvailable = f.isAvailable)
    (hcontent : g.content? distribution = f.content? distribution) (arch : Value) :
    g.get distribution arch = f.get distribution arch := by
  have hpathOf : g.pathOf distribution = f.pathOf distribution := by rw [pathOf, pathOf, hpath]
  have htooLong : g.isTooLong distribution = f.isTooLong distribution := by
    rw [isTooLong, isTooLong, hpathOf, havailable]
  rw [get, get, hpathOf, htooLong, hcontent]

theorem get_of_content?_eq_none (hlong : f.isTooLong distribution = false)
    (h : f.content? distribution = none) (arch : Value) : f.get distribution arch = .ok [] := by
  simp [get, hlong, h]

/-! ## Entries -/

/-- What a document lists for an architecture. -/
def entriesOf (fields : List (String × Value)) (arch : String) : List Value :=
  match Assoc.get? fields arch with
  | some (.list items) => items
  | _ => []

/-- A repository is what an entry says, and it can be used. -/
structure Describes (entry : Value) (r : Repository) : Prop where
  decoded : decodeRepository entry = .ok r
  named : Text.strip r.id.text ≠ ""
  sourced : r.baseurls ≠ [] ∨ r.metalink.truthy = true ∨ r.mirrorlist.truthy = true

theorem describes_of_decodeRepository {entry : Value} {r : Repository}
    (h : decodeRepository entry = .ok r) : Describes entry r where
  decoded := h
  named hblank := by
    have := Text.strip_eq_empty_iff.1 hblank
    rw [r.id.not_blank] at this
    cases this
  sourced := by simpa [or_assoc] using r.has_source

theorem eq_nil_of_mapM_nil (h : [].mapM decodeRepository = .ok rs) : rs = [] :=
  List.forall₂_nil_left_iff.1 (Outcome.mapM_eq_ok.1 h)

/-- Texts are no entries. -/
theorem eq_nil_of_mapM_texts {α : Type} {xs : List α} {text : α → String}
    (h : (xs.map fun x => Value.str (text x)).mapM decodeRepository = .ok rs) : rs = [] := by
  cases xs with
  | nil => exact eq_nil_of_mapM_nil h
  | cons x xs =>
    obtain ⟨r, hr, -⟩ := Outcome.bind_eq_ok.1 h
    cases hr

/-- Each entry of the list of an architecture gives a repository, and nothing else gives any. -/
theorem describes_entriesOf
    (h : (Faulting.itemsAt (.obj fields) arch >>= (·.mapM decodeRepository)) = .ok rs) :
    List.Forall₂ Describes (entriesOf fields arch) rs := by
  obtain ⟨entries, hentries, hrs⟩ := Outcome.bind_eq_ok.1 h
  have hiterate : Faulting.iterate ((Assoc.get? fields arch).getD (.list [])) = .ok entries :=
    hentries
  unfold entriesOf
  cases hget : Assoc.get? fields arch with
  | none =>
    rw [hget] at hiterate
    obtain rfl : [] = entries := Except.ok.inj hiterate
    rw [eq_nil_of_mapM_nil hrs]
    exact .nil
  | some v =>
    rw [hget, Option.getD_some] at hiterate
    cases v with
    | list items =>
      obtain rfl : items = entries := Except.ok.inj hiterate
      exact (Outcome.mapM_eq_ok.1 hrs).imp fun _ _ => describes_of_decodeRepository
    | str s =>
      obtain rfl := Except.ok.inj hiterate
      rw [eq_nil_of_mapM_texts hrs]
      exact .nil
    | obj inner =>
      obtain rfl := Except.ok.inj hiterate
      rw [eq_nil_of_mapM_texts hrs]
      exact .nil
    | _ => cases hiterate

/-! ## Documents -/

/-- Where a look-up reads a file and gives repositories, the file is an object. -/
theorem exists_fields_of_lookUp {content : String} (hlong : f.isTooLong distribution = false)
    (hcontent : f.content? distribution = some content) (h : lookUp f distribution arch = .ok rs) :
    ∃ fields, Json.read content = .ok (.obj fields) ∧
      (Faulting.itemsAt (.obj fields) arch >>= (·.mapM decodeRepository)) = .ok rs := by
  simp only [lookUp, hlong, hcontent] at h
  cases hread : Json.read content with
  | error e =>
    rw [hread] at h
    cases e <;> cases h
  | ok document =>
    rw [hread] at h
    cases document with
    | obj fields => exact ⟨fields, rfl, Outcome.mapError_eq_ok.1 h⟩
    | _ => cases h

/-- An error about a file is one about what it holds, unless the reader gives up. -/
theorem ofError_of_readFile {path content : String} {v : Value} {e : Error}
    (hdeep : ∀ c, Json.read content ≠ .error (.tooDeep c))
    (h : readFile path content v = .error e) :
    Faulting.LookupFailure.ofError e = .invalid e.message := by
  unfold readFile at h
  cases hread : Json.read content with
  | error d =>
    rw [hread] at h
    cases d with
    | malformed =>
      cases h
      rfl
    | tooManyDigits count =>
      cases h
      rfl
    | tooDeep c => exact absurd hread (hdeep c)
  | ok document =>
    rw [hread] at h
    cases document with
    | obj fields =>
      obtain ⟨d, -, rfl⟩ := Outcome.mapError_eq_error.1 h
      rfl
    | _ =>
      cases h
      rfl

/-- What a file holds gives repositories that its entries describe, or an error about it. -/
theorem get_of_content? {content : String} (hlong : f.isTooLong distribution = false)
    (hcontent : f.content? distribution = some content)
    (hdeep : ∀ c, Json.read content ≠ .error (.tooDeep c)) (arch : String) :
    (∃ rs fields, f.get distribution arch = .ok rs ∧ lookUp f distribution arch = .ok rs ∧
      Json.read content = .ok (.obj fields) ∧
      List.Forall₂ Describes (entriesOf fields arch) rs) ∨
    ∃ e, f.get distribution arch = .error e ∧
      lookUp f distribution arch = .error (.invalid e.message) := by
  have heq := Faulting.lookUp_eq f distribution arch
  cases hget : f.get distribution arch with
  | ok rs =>
    rw [hget] at heq
    obtain ⟨fields, hread, hrs⟩ := exists_fields_of_lookUp hlong hcontent heq
    exact .inl ⟨rs, fields, rfl, heq, hread, describes_entriesOf hrs⟩
  | error e =>
    rw [hget] at heq
    have hread : readFile (f.pathOf distribution) content arch = .error e := by
      simpa [get, hlong, hcontent] using hget
    exact .inr ⟨e, rfl, heq.trans (congrArg Except.error (ofError_of_readFile hdeep hread))⟩

/-- One file decides what a look-up gives. It is directly in the directory, whatever the
distribution is called, and where it is not there, nothing is found. What it holds gives one
repository for each entry of the architecture, in their order, or an error about the file, unless
its containers stand too deep in each other; and no fault is left unhandled. -/
theorem get_confined (f : RepositoryFolder) (distribution arch : String) :
    (f.pathOf distribution = f.path ++ "/" ++ fileName distribution ∧
      '/' ∉ (fileName distribution).toList ∧ ∃ stem, fileName distribution = stem ++ ".json") ∧
    (∀ g : RepositoryFolder, g.path = f.path → g.isAvailable = f.isAvailable →
      g.content? distribution = f.content? distribution →
        g.get distribution arch = f.get distribution arch) ∧
    (f.isTooLong distribution = false → f.content? distribution = none →
      f.get distribution arch = .ok []) ∧
    (f.isTooLong distribution = false → ∀ content, f.content? distribution = some content →
      (∀ c, Json.read content ≠ .error (.tooDeep c)) →
      (∃ rs fields, f.get distribution arch = .ok rs ∧ lookUp f distribution arch = .ok rs ∧
        Json.read content = .ok (.obj fields) ∧
        List.Forall₂ Describes (entriesOf fields arch) rs) ∨
      ∃ e, f.get distribution arch = .error e ∧
        lookUp f distribution arch = .error (.invalid e.message)) ∧
    ∀ fault, lookUp f distribution arch ≠ .error (.unhandled fault) := by
  refine ⟨⟨?_, slash_notMem_fileName distribution, _, rfl⟩, fun g hpath havailable hcontent =>
    get_congr hpath havailable hcontent arch, fun hlong hnone =>
    get_of_content?_eq_none hlong hnone arch, fun hlong content hcontent hdeep =>
    get_of_content? hlong hcontent hdeep arch, fun fault h => ?_⟩
  · rfl
  · rw [Faulting.lookUp_eq] at h
    obtain ⟨e, -, he⟩ := Outcome.mapError_eq_error.1 h
    exact Faulting.ofError_ne_unhandled e fault he

/-- A directory with a file for one distribution. -/
def sampleFolder (content : String) : RepositoryFolder :=
  ⟨"conf", some [("fedora-38.json", content)]⟩

theorem isTooLong_sampleFolder (content distribution : String) :
    (sampleFolder content).isTooLong distribution = (sampleFolder "").isTooLong distribution := rfl

theorem content?_sampleFolder (content distribution : String) :
    (sampleFolder content).content? distribution =
      ((sampleFolder "").content? distribution).map fun _ => content := by
  unfold content?
  change (if FileName.isWritable ((sampleFolder "").pathOf distribution) then _ else _) = _
  split
  · simp only [sampleFolder, Option.bind_some, Assoc.get?]
    split <;> rfl
  · rfl

theorem get_confined_sample :
    let content := "\x7b\"x\":[\x7b\"id\":\"a\",\"baseurl\":\"u\"\x7d]\x7d"
    let f := sampleFolder content
    f.isTooLong "../fedora-38" = false ∧ f.content? "../fedora-38" = some content ∧
      (∀ c, Json.read content ≠ .error (.tooDeep c)) ∧
      (∃ r, f.get "../fedora-38" "x" = .ok [r] ∧ lookUp f "../fedora-38" "x" = .ok [r]) ∧
      f.isTooLong "fedora-39" = false ∧ f.content? "fedora-39" = none ∧
      f.get "fedora-39" "x" = .ok [] := by
  intro content f
  have hlong : f.isTooLong "../fedora-38" = false := by decide +kernel
  have hcontent : f.content? "../fedora-38" = some content := by decide +kernel
  have hlong' : f.isTooLong "fedora-39" = false := by decide +kernel
  have hnone : f.content? "fedora-39" = none := by decide +kernel
  have hids : (f.get "../fedora-38" "x").toOption.map (·.map (·.id.text)) = some ["a"] := by
    decide +kernel
  have hdeep : ∀ c, Json.read content ≠ .error (.tooDeep c) := by
    intro c h
    have hget : f.get "../fedora-38" "x" = .error (.unread (.tooDeep c)) := by
      simp [get, hlong, hcontent, readFile, h]
    rw [hget] at hids
    cases hids
  refine ⟨hlong, hcontent, hdeep, ?_, hlong', hnone,
    (get_confined f "fedora-39" "x").2.2.1 hlong' hnone⟩
  rcases (get_confined f "../fedora-38" "x").2.2.2.1 hlong content hcontent hdeep with
    ⟨rs, fields, hget, hlook, -, -⟩ | ⟨e, hget, -⟩
  · rw [hget] at hids ⊢
    have hlength := congrArg List.length (Option.some.inj hids)
    obtain ⟨r, rfl⟩ := List.length_eq_one_iff.1 (List.length_map _ ▸ hlength)
    exact ⟨r, rfl, hlook⟩
  · rw [hget] at hids
    cases hids

/-! ## Limits -/

theorem skipSpace_brackets (n : Nat) :
    Json.skipSpace (List.replicate n '[') = List.replicate n '[' := by
  cases n <;> rfl

/-- The reader gives up on lists that stand deeper in each other than it goes. -/
theorem readValue_brackets {depth fuel n : Nat} (hn : depth < n) (hfuel : 2 * depth < fuel) :
    Json.readValue depth fuel (List.replicate n '[') = .error (.tooDeep .array) := by
  induction depth generalizing fuel n with
  | zero =>
    obtain ⟨fuel, rfl⟩ := Nat.exists_eq_add_of_lt hfuel
    obtain ⟨n, rfl⟩ := Nat.exists_eq_add_of_lt hn
    rfl
  | succ depth ih =>
    obtain ⟨fuel, rfl⟩ := Nat.exists_eq_add_of_le (show 2 ≤ fuel by omega)
    obtain ⟨n, rfl⟩ := Nat.exists_eq_add_of_le (show 2 ≤ n by omega)
    have hinner : Json.readValue depth fuel (List.replicate (n + 1) '[') =
        .error (.tooDeep .array) := ih (by omega) (by omega)
    have hitems : Json.readItems depth (fuel + 1) [] (List.replicate (n + 1) '[') =
        .error (.tooDeep .array) := by
      rw [Json.readItems, skipSpace_brackets, hinner, Outcome.error_bind]
    rw [Nat.add_comm 2 fuel, Nat.add_comm 2 n]
    simp only [List.replicate_succ] at hitems ⊢
    simp [Json.readValue, Json.skipSpace, Json.isSpace, hitems]

theorem read_brackets {n : Nat} (hn : Json.maxDepth < n) :
    Json.read (String.ofList (List.replicate n '[')) = .error (.tooDeep .array) := by
  rw [Json.read, String.toList_ofList, skipSpace_brackets, readValue_brackets hn (by
    rw [List.length_replicate]
    omega)]
  rfl

/-- A name of a given length. -/
def nameOfLength (n : Nat) : String := String.ofList (List.replicate n 'x')

theorem fileName_nameOfLength {n : Nat} (hn : 1 < n) :
    fileName (nameOfLength n) = nameOfLength n ++ ".json" := by
  have hslash : '/' ∉ List.replicate n 'x' := by simp [List.mem_replicate]
  have hne : List.replicate n 'x' ≠ [] := by
    simp only [ne_eq, List.replicate_eq_nil_iff]
    omega
  have hdot : List.replicate n 'x' ≠ ['.'] := by
    intro h
    have := congrArg List.length h
    simp only [List.length_replicate, List.length_singleton] at this
    omega
  rw [fileName, nameOfLength, last_ofList hslash hne hdot]

theorem isWritable_pathOf_nameOfLength (f : RepositoryFolder)
    (h : FileName.isWritable f.path = true) {n : Nat} (hn : 1 < n) :
    FileName.isWritable (f.pathOf (nameOfLength n)) = true := by
  have hpath : f.pathOf (nameOfLength n) = f.path ++ "/" ++ (nameOfLength n ++ ".json") :=
    congrArg (f.path ++ "/" ++ ·) (fileName_nameOfLength hn)
  have hletter : FileName.isPathChar 'x' = true := by decide
  have hslash : "/".toList.all FileName.isPathChar = true := by decide
  have hsuffix : ".json".toList.all FileName.isPathChar = true := by decide
  rw [FileName.isWritable] at h
  rw [FileName.isWritable, hpath]
  simp only [String.toList_append, nameOfLength, String.toList_ofList, List.all_append, h, hslash,
    hsuffix, List.all_replicate, hletter]
  simp

theorem isWritable_sampleFolder (content : String) :
    FileName.isWritable ((sampleFolder content).pathOf (nameOfLength 300)) = true := by
  have hconf : FileName.isWritable "conf" = true := by decide
  exact isWritable_pathOf_nameOfLength (sampleFolder content) hconf (by decide)

theorem isTooLong_nameOfLength (content : String) :
    (sampleFolder content).isTooLong (nameOfLength 300) = true := by
  have hbytes : FileName.isTooLong (nameOfLength 300 ++ ".json") = true := by
    simp only [FileName.isTooLong, FileName.byteSize, nameOfLength, String.toList_append,
      String.toList_ofList]
    decide +kernel
  rw [isTooLong, isWritable_sampleFolder, fileName_nameOfLength (by decide), hbytes]
  simp [sampleFolder, isAvailable]

theorem content?_nameOfLength (content : String) :
    (sampleFolder content).content? (nameOfLength 300) = none := by
  have hother : ("fedora-38.json" == nameOfLength 300 ++ ".json") = false := by decide +kernel
  rw [content?, isWritable_sampleFolder, fileName_nameOfLength (by decide)]
  simp [sampleFolder, Assoc.get?, hother]

theorem lookUp_of_tooDeep {content : String} {c : Json.Container}
    (h : Json.read content = .error (.tooDeep c)) (arch : String) :
    lookUp (sampleFolder content) "fedora-38" arch = .error (.nested c) := by
  have hshort : (sampleFolder content).isTooLong "fedora-38" = false := by
    rw [isTooLong_sampleFolder]
    decide +kernel
  have hsome : (sampleFolder "").content? "fedora-38" = some "" := by decide +kernel
  simp only [lookUp, hshort, content?_sampleFolder, hsome, Option.map_some, h]
  rfl

/-- A name that is too long is refused even though there is no such file, and the reader gives up on
a file of brackets. -/
theorem lookUp_refused_nested :
    let f := sampleFolder (String.ofList (List.replicate 1000 '['))
    f.content? (nameOfLength 300) = none ∧
      lookUp f (nameOfLength 300) "x86_64" =
        .error (.refused (FileName.tooLongMessage (f.pathOf (nameOfLength 300)))) ∧
      lookUp f "fedora-38" "x86_64" = .error (.nested .array) := by
  refine ⟨content?_nameOfLength _, ?_, lookUp_of_tooDeep (read_brackets (by decide)) _⟩
  simp only [lookUp, isTooLong_nameOfLength, if_true]

end RepositoryFolder
end Imagewright
