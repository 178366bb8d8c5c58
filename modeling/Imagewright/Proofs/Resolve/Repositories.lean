import Imagewright.Proofs.Assoc
import Imagewright.Proofs.Outcome
import Imagewright.Proofs.Resolve.Packages
import Imagewright.Resolve.Depsolve

/-!
# The repositories of a helper's answer

The helper is told about one repository for each identifier, the first of the chain. Its packages
get the settings of the last one. These are the same where repositories of one identifier are.

## Main definitions

* `Depsolve.told`, `Depsolve.heeded`: the repository that the helper is told about under an
  identifier, and the one whose settings packages get.
* `Request.Unambiguous`: the first and the last repository of an identifier are the same.
* `Depsolve.Follows`: a package has the settings of a repository, and where they come from.

## Main statements

* `Depsolve.told_eq`, `Depsolve.heeded_eq`: the first and the last repository of an identifier.
* `Depsolve.told_eq_heeded`: under an unambiguous identifier, packages get the settings of the
  repository that the helper was told about.
-/
namespace Imagewright

namespace Resolve

/-- The first and the last repository of an identifier are the same, or it has none. -/
def Request.Unambiguous (q : Request) (id : String) : Prop :=
  q.repositories.find? (·.id.text == id) = q.repositories.reverse.find? (·.id.text == id)

namespace Depsolve

variable {q : Request}

/-- The repository that the helper is told about under an identifier. -/
def told (q : Request) (id : String) : Option Repository := (firstById q.repositories).get? id

/-- The repository whose settings the packages under an identifier get. -/
def heeded (q : Request) (id : String) : Option Repository := (lastById q.repositories).get? id

/-! ## First and last -/

theorem get?_firstById (repositories : List Repository) (id : String) :
    (firstById repositories).get? id = repositories.find? (·.id.text == id) := by
  -- What the list so far has under the identifier stays, so the fold is followed from any start.
  have hfold : ∀ m : Assoc String Repository,
      (repositories.foldl (fun m r => if m.contains r.id.text then m else m.set r.id.text r)
        m).get? id = (m.get? id).or (repositories.find? (·.id.text == id)) := by
    induction repositories with
    | nil => simp
    | cons r rest ih =>
      intro m
      rw [List.foldl_cons, ih]
      by_cases hr : r.id.text = id
      · subst hr
        rw [List.find?_cons_of_pos (by simp)]
        by_cases hm : m.contains r.id.text = true
        · obtain ⟨first, hfirst⟩ := Option.isSome_iff_exists.1 hm
          simp [hm, hfirst]
        · have hnone : m.get? r.id.text = none := Option.not_isSome_iff_eq_none.1 hm
          simp [hm, hnone]
      · rw [List.find?_cons_of_neg (by simpa using hr)]
        split
        · rfl
        · rw [Assoc.get?_set_ne _ _ hr]
  simp [firstById, hfold]

theorem told_eq (q : Request) (id : String) :
    told q id = q.repositories.find? (·.id.text == id) := get?_firstById _ _

theorem heeded_eq (q : Request) (id : String) :
    heeded q id = q.repositories.reverse.find? (·.id.text == id) := by
  rw [heeded, lastById, Assoc.get?_ofList, ← List.map_reverse, List.find?_map, Option.map_map]
  exact congrFun Option.map_id_fun' _

theorem told_eq_heeded_iff {id : String} : told q id = heeded q id ↔ q.Unambiguous id := by
  rw [told_eq, heeded_eq, Request.Unambiguous]

/-! ## Packages -/

/-- A package of an answer has what a repository says, unless the answer says it. -/
structure Heeds (repository : Option Repository) (v : Value) (p : PackageSpec) : Prop where
  ignoreSsl : p.ignoreSsl = .bool ((repository.map (·.ignoreSsl)).getD false)
  checkGpg : ∃ w, v.getD "check_gpg" (.bool ((repository.map (·.checkGpg)).getD false)) = .ok w ∧
    p.checkGpg = .bool w.truthy

theorem settings_of_ofDraft {d : PackageSpec.Draft} {p : PackageSpec}
    (h : PackageSpec.ofDraft d = .ok p) : p.checkGpg = d.checkGpg ∧ p.ignoreSsl = d.ignoreSsl := by
  obtain rfl := PackageSpec.ofDraft_eq_ok.1 h
  exact ⟨rfl, rfl⟩

/-- The repository of a list that a package names, if it names one. -/
def named (m : Assoc String Repository) : Value → Option Repository
  | .str id => m.get? id
  | _ => none

theorem named_congr {m m' : Assoc String Repository} {id : Value}
    (h : ∀ s : String, id = s → m.get? s = m'.get? s) : named m id = named m' id := by
  cases id with
  | str s => exact h s rfl
  | _ => rfl

theorem eq_named_of_repositoryOf {m : Assoc String Repository} {id : Value}
    {repository : Option Repository} (h : repositoryOf m id = .ok repository) :
    repository = named m id := by
  unfold repositoryOf at h
  split at h
  · exact (Except.ok.inj h).symm
  · next hid =>
    split at h
    · obtain rfl := Except.ok.inj h
      cases id with
      | str s => exact absurd rfl (hid s)
      | _ => rfl
    · cases h

theorem heeds_of_packageOf {m : Assoc String Repository} {v : Value} {p : PackageSpec}
    (h : packageOf m v = .ok p) : ∃ id, v.getD "repo_id" "" = .ok id ∧ Heeds (named m id) v p := by
  unfold packageOf at h
  simp only [part, Outcome.bind_eq_ok, Outcome.mapError_eq_ok] at h
  obtain ⟨repository, ⟨id, hid, hrepository⟩, name, -, epochValue, -, epoch, -, version, -,
    release, -, arch, -, location, -, checksum, -, w, hw, hp⟩ := h
  obtain ⟨hcheck, hignore⟩ := settings_of_ofDraft hp
  obtain rfl := eq_named_of_repositoryOf hrepository
  exact ⟨id, hid, hignore, w, hw, hcheck⟩

theorem packagesOf_eq_ok {m : Assoc String Repository} {v : Value} {specs : List PackageSpec} :
    packagesOf m v = .ok specs ↔ ∃ packages, v.get? "packages" = .ok (some (.list packages)) ∧
      packages.mapM (packageOf m) = .ok specs := by
  unfold packagesOf
  split
  · next packages hv => simp [hv]
  · next hv => simpa using fun packages h => absurd h (hv packages)

/-- The helper has written a list of packages. -/
def Ending.Writes (ending : Ending) (packages : List Value) : Prop :=
  ∃ code stdout stderr answer, ending = .exited code (.str stdout) stderr ∧
    Json.read stdout = .ok answer ∧ answer.get? "packages" = .ok (some (.list packages))

theorem input_of_call {d : Depsolve} {remaining : Value} {c : Call}
    (h : d.call q remaining = .ok c) : c.input = d.document q := by
  obtain ⟨t, -, h⟩ := Outcome.bind_eq_ok.1 h
  split at h
  · cases h
  · obtain rfl := Except.ok.inj h
    rfl

/-- The packages of a resolved request were written by the helper that was called for it. -/
theorem exists_packages_of_resolve {d : Depsolve} {remaining : Value} {helper : Call → Ending}
    {specs : List PackageSpec} (h : d.resolve q remaining helper = .ok specs) :
    ∃ c packages, d.call q remaining = .ok c ∧ (helper c).Writes packages ∧
      packages.mapM (packageOf (lastById q.repositories)) = .ok specs := by
  obtain ⟨c, hc, hinterpret⟩ := Outcome.bind_eq_ok.1 h
  cases hend : helper c with
  | timedOut =>
    rw [hend] at hinterpret
    obtain ⟨_, -, hthrow⟩ := Outcome.bind_eq_ok.1 hinterpret
    cases hthrow
  | notStarted reason | unwaitable reason =>
    rw [hend] at hinterpret
    cases hinterpret
  | exited code stdout stderr =>
    rw [hend, interpret] at hinterpret
    split at hinterpret
    · unfold answerOf at hinterpret
      split at hinterpret
      · next stdout =>
        split at hinterpret
        · cases hinterpret
        · cases hinterpret
        · next answer hread =>
          obtain ⟨packages, hpackages, hspecs⟩ := packagesOf_eq_ok.1 hinterpret
          exact ⟨c, packages, hc, ⟨code, stdout, stderr, answer, hend, hread, hpackages⟩, hspecs⟩
      · cases hinterpret
    · cases hinterpret

/-! ## What the helper is told -/

/-- The repositories that a document tells about. -/
def toldRepositories (document : Value) : List Value :=
  match document.field "arguments" >>= fun arguments => arguments.field "repos" with
  | .ok (.list repositories) => repositories
  | _ => []

/-- A repository is told about under an identifier. -/
def isUnder (id : String) (repository : Value) : Bool :=
  match repository.field "id" with
  | .ok (.str s) => s == id
  | _ => false

/-- What a document tells about an identifier. -/
def toldUnder (document : Value) (id : String) : List Value :=
  (toldRepositories document).filter (isUnder id)

theorem toldRepositories_document (d : Depsolve) (q : Request) :
    toldRepositories (d.document q) = (firstById q.repositories).map (·.2.request) := rfl

theorem isUnder_request (id : String) (r : Repository) : isUnder id r.request = (r.id.text == id) :=
  rfl

theorem sslverify_request (r : Repository) :
    r.request.field "sslverify" = .ok (.bool (!r.ignoreSsl)) := by
  unfold Repository.request Repository.listField Repository.optionalField
  split_ifs <;> rfl

/-- Each repository is filed once, under its own identifier. -/
theorem indexed_firstById (repositories : List Repository) :
    (firstById repositories).keys.Nodup ∧ ∀ e ∈ firstById repositories, e.1 = e.2.id.text := by
  refine List.foldlRecOn (motive := fun m : Assoc String Repository =>
    m.keys.Nodup ∧ ∀ e ∈ m, e.1 = e.2.id.text) repositories _ ⟨List.nodup_nil, nofun⟩ ?_
  rintro m ⟨hnodup, hfiled⟩ r -
  split
  · exact ⟨hnodup, hfiled⟩
  · next hnew =>
    refine ⟨Assoc.nodup_keys_set hnodup _ _, fun e he => ?_⟩
    rw [Assoc.set_of_notMem (mt Assoc.contains_iff.2 hnew)] at he
    rcases List.mem_append.1 he with he | he
    · exact hfiled e he
    · rw [List.mem_singleton.1 he]

/-- The helper is told about one repository under an identifier of the request, and about none under
any other. -/
theorem toldUnder_document (d : Depsolve) (q : Request) (id : String) :
    toldUnder (d.document q) id = (told q id).toList.map (·.request) := by
  obtain ⟨hnodup, hfiled⟩ := indexed_firstById q.repositories
  have hfilter : (firstById q.repositories).filter (fun e => isUnder id e.2.request) =
      (firstById q.repositories).filter (·.1 == id) :=
    List.filter_congr fun e he => by rw [isUnder_request, hfiled e he]
  rw [toldUnder, toldRepositories_document, List.filter_map]
  simp only [Function.comp_def, hfilter, Assoc.filter_key hnodup, List.map_map]
  rfl

/-! ## The same repository -/

/-- Certificates are ignored for a package only if the helper was told to under the identifier that
the package names. -/
theorem exists_entry_of_heeds {d : Depsolve} {id v : Value} {p : PackageSpec}
    (h : Heeds (named (firstById q.repositories) id) v p) (hignore : p.ignoreSsl.truthy = true) :
    ∃ s : String, id = s ∧
      ∃ entry ∈ toldUnder (d.document q) s, entry.field "sslverify" = .ok (.bool false) := by
  rw [h.ignoreSsl] at hignore
  cases hr : named (firstById q.repositories) id with
  | none =>
    rw [hr] at hignore
    cases hignore
  | some r =>
    rw [hr] at hignore
    have hssl : r.ignoreSsl = true := hignore
    cases id with
    | str s =>
      have hs : told q s = some r := hr
      refine ⟨s, rfl, r.request, ?_, by rw [sslverify_request, hssl]; rfl⟩
      rw [toldUnder_document, hs]
      exact List.mem_singleton_self _
    | _ => cases hr

/-- Whose settings a package has that an answer to a document gives under an identifier. -/
structure Follows (q : Request) (document id v : Value) (p : PackageSpec) : Prop where
  heeds : Heeds (named (lastById q.repositories) id) v p
  /-- An unambiguous identifier means the repository that the helper was told about. -/
  told : (∀ s : String, id = s → q.Unambiguous s) →
    Heeds (named (firstById q.repositories) id) v p
  /-- So certificates are ignored only where the helper was told to. -/
  trusts : (∀ s : String, id = s → q.Unambiguous s) → p.ignoreSsl.truthy = true →
    ∃ s : String, id = s ∧
      ∃ entry ∈ toldUnder document s, entry.field "sslverify" = .ok (.bool false)

theorem follows_of_heeds {d : Depsolve} {id v : Value} {p : PackageSpec}
    (h : Heeds (named (lastById q.repositories) id) v p) : Follows q (d.document q) id v p := by
  have htold : (∀ s : String, id = s → q.Unambiguous s) →
      Heeds (named (firstById q.repositories) id) v p := by
    intro hid
    have hsame : named (firstById q.repositories) id = named (lastById q.repositories) id :=
      named_congr fun s hs => told_eq_heeded_iff.2 (hid s hs)
    exact hsame ▸ h
  exact ⟨h, htold, fun hid => exists_entry_of_heeds (htold hid)⟩

/-- The helper is told about the first repository of each identifier, and packages get the settings
of the last one. Under an unambiguous identifier the two are the same, and so certificates are
ignored only where the helper was told to. -/
theorem told_eq_heeded (d : Depsolve) (q : Request) :
    (∀ id, toldUnder (d.document q) id = (told q id).toList.map (·.request) ∧
      (told q id = heeded q id ↔ q.Unambiguous id)) ∧
    ∀ remaining helper specs, d.resolve q remaining helper = .ok specs →
      ∃ c packages, d.call q remaining = .ok c ∧ c.input = d.document q ∧
        (helper c).Writes packages ∧
        List.Forall₂ (fun v p => ∃ id, v.getD "repo_id" "" = .ok id ∧ Follows q c.input id v p)
          packages specs := by
  refine ⟨fun id => ⟨toldUnder_document d q id, told_eq_heeded_iff⟩, fun remaining helper specs h =>
    ?_⟩
  obtain ⟨c, packages, hc, hwrites, hspecs⟩ := exists_packages_of_resolve h
  have hinput := input_of_call hc
  refine ⟨c, packages, hc, hinput, hwrites, ?_⟩
  refine (Outcome.mapM_eq_ok.1 hspecs).imp fun v p hpackage => ?_
  obtain ⟨id, hid, hheeds⟩ := heeds_of_packageOf hpackage
  rw [hinput]
  exact ⟨id, hid, follows_of_heeds hheeds⟩

def repositoryAt (url : String) (ignoreSsl : Bool) : Repository where
  id := ⟨"r", by decide⟩
  baseurls := [.str url]
  metalink := .null
  mirrorlist := .null
  gpgKeys := []
  checkGpg := false
  checkRepoGpg := false
  ignoreSsl := ignoreSsl
  packageSets := []
  has_source := rfl

def requestFrom (repositories : List Repository) : Request where
  arch := "x86_64"
  releasever := "38"
  modulePlatformId := "platform:f38"
  chain := [{ install := ["a"], repositories }]

/-- The helper finds the package in the repository of the request. -/
def findsPackage (_ : Call) : Ending :=
  .exited (.int 0) (.str ("\x7b\"packages\": [\x7b\"name\": \"a\", \"version\": \"1\", " ++
    "\"release\": \"1\", \"arch\": \"x86_64\", \"remote_location\": \"https://one/a.rpm\", " ++
    "\"checksum\": \"sha256:aa\", \"repo_id\": \"r\"\x7d]\x7d")) (.str "")

theorem told_eq_heeded_one :
    ∃ specs, (({} : Depsolve).resolve (requestFrom [repositoryAt "https://one" true]) .null
        findsPackage) = .ok specs ∧ ∃ p ∈ specs, p.ignoreSsl.truthy = true ∧
      ∃ (s : String), ∃ entry ∈ toldUnder
        (({} : Depsolve).document (requestFrom [repositoryAt "https://one" true])) s,
        entry.field "sslverify" = .ok (.bool false) := by
  have hq : ∀ id, (requestFrom [repositoryAt "https://one" true]).Unambiguous id := fun _ => rfl
  have hfound : (({} : Depsolve).resolve (requestFrom [repositoryAt "https://one" true]) .null
      findsPackage).toOption.map (·.map (·.ignoreSsl.truthy)) = some [true] := by
    decide +kernel
  cases h : ({} : Depsolve).resolve (requestFrom [repositoryAt "https://one" true]) .null
      findsPackage with
  | error e =>
    rw [h] at hfound
    cases hfound
  | ok specs =>
    rw [h] at hfound
    obtain ⟨p, rfl, hignore⟩ := List.map_eq_singleton_iff.1 (Option.some.inj hfound)
    have hp : p ∈ [p] := List.mem_singleton_self p
    obtain ⟨c, packages, -, hinput, -, hall⟩ := (told_eq_heeded {} _).2 _ _ _ h
    obtain ⟨v, -, id, -, hfollows⟩ := Outcome.exists_of_mem_forall₂ hall hp
    obtain ⟨s, -, entry, hentry, hssl⟩ := hfollows.trusts (fun s _ => hq s) hignore
    exact ⟨[p], rfl, p, hp, hignore, s, entry, hinput ▸ hentry, hssl⟩

/-- Of two repositories with one identifier the helper is told to check the certificates of the
first, and the package is marked as one of the second, whose certificates do not count. -/
theorem told_ne_heeded_two :
    ∃ (q : Request) (entry : Value), toldUnder (({} : Depsolve).document q) "r" = [entry] ∧
      entry.field "sslverify" = .ok (.bool true) ∧
        (({} : Depsolve).resolve q .null findsPackage).toOption.map
          (·.map (·.ignoreSsl.truthy)) = some [true] := by
  refine ⟨requestFrom [repositoryAt "https://one" false, repositoryAt "https://two" true], _, rfl,
    rfl, ?_⟩
  decide +kernel

end Depsolve
end Resolve
end Imagewright
