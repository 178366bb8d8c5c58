import Imagewright.Proofs.Disk.Filesystems
import Imagewright.Proofs.Outcome
import Imagewright.Proofs.Resolve.Packages
import Imagewright.Proofs.Sorted
import Imagewright.Resolve.Direct
import Mathlib.Data.List.TakeWhile

/-!
# Answers without a solver

A request is answered with one package for each name that it installs, in the order in which the
names first occur, or with the names that there are no packages for. A name gets its package from
the set that names it first. Nothing else happens, unless a file name holds lone surrogates, which
cannot be written as bytes.

## Main definitions

* `Resolve.Request.Typed`: a request as its callers make it.
* `Resolve.Direct.Whole`: the file names of a request hold no lone surrogates.
* `Resolve.Request.wanted`: the names that a request gets packages for.
* `Resolve.Direct.Provides`: a package is that of a name, from the set that names it first.
* `Resolve.Direct.Answers`: what a request is answered.
* `Resolve.Direct.run`: the answers to one request after the other.

## Main statements

* `Resolve.Direct.missing_eq`: the names without packages are told in order.
* `Resolve.Direct.packages_eq`: packages are those of the names that occur first.
* `Resolve.Direct.answers_outcome`: what any request is answered.
* `Resolve.Direct.answers_run`: all requests are recorded, and none changes another's answer.
* `Resolve.Direct.not_resolved_half`: a name that is a lone surrogate has no package.
-/
namespace Imagewright

/-! ## Texts -/

namespace Text

theorem loneHalves?_eq_none {s : String} : loneHalves? s = none ↔ isWhole s = true := by
  rw [isWhole, List.all_eq_true, ← List.dropWhile_eq_nil_iff, loneHalves?]
  cases s.toList.dropWhile fun c => (half? c).isNone <;> simp

@[simp] theorem isWhole_append (s t : String) : isWhole (s ++ t) = (isWhole s && isWhole t) := by
  simp [isWhole]

end Text

theorem Value.isIn_str {s : String} {items : List Value} :
    Value.isIn (.str s) items = true ↔ .str s ∈ items := by
  simp [Value.isIn, Value.same_str]

/-! ## Requests -/

/-- A repository says with texts where it is. -/
def Repository.Located (repository : Repository) : Prop :=
  ∀ v ∈ repository.baseurls, ∃ url : String, v = .str url

/-- The names that a set installs, in their order. -/
def PackageSet.names (s : PackageSet) : List String := s.install.map (·.text)

namespace Resolve

namespace Request

/-- The names that a request installs, in their order. -/
def names (q : Request) : List String := q.chain.flatMap (·.names)

def excludedNames (q : Request) : List String := q.excludes.map (·.text)

/-- A request as its callers make it: what it installs are texts that are not empty, and what it
excludes and where its repositories are, are texts. -/
structure Typed (q : Request) : Prop where
  installs : ∀ v ∈ q.installs, ∃ name : String, v = .str name ∧ name ≠ ""
  excludes : ∀ v ∈ q.excludes, ∃ name : String, v = .str name
  located : ∀ repository ∈ q.repositories, repository.Located

/-- The names that a request gets packages for: each once, where it first stands, without groups and
without what any set of the chain excludes. -/
def wanted (q : Request) : List String :=
  (q.names.filter fun name => !Direct.isGroup name && !q.excludedNames.contains name).eraseDups

/-- The first set that installs a name. -/
def setOf (q : Request) (name : String) : Option PackageSet :=
  q.chain.find? (·.names.contains name)

end Request

namespace Direct

variable {r : Direct} {q : Request} {name : String}

def outcome (r : Direct) (q : Request) : Outcome := (r.answer q).mapError Error.failure

/-- There are no packages for a name. -/
def Lacks (r : Direct) (name : String) : Prop := .str name ∈ r.unavailable

instance : DecidablePred r.Lacks := fun _ => decidable_of_iff _ Value.isIn_str

/-- The names of a request that there are no packages for, as often as they occur. -/
def lacking (r : Direct) (q : Request) : List String := q.names.filter (r.Lacks ·)

/-- Where the packages of a repository are. -/
def place (r : Direct) (repository : Option Repository) : String :=
  ((repository.bind (·.baseurls.head?)).map (·.text)).getD r.home

/-- The values of the package of a name in a repository. -/
def draftOf (r : Direct) (q : Request) (repository : Option Repository) (name : String) :
    PackageSpec.Draft where
  name := .str name
  epoch := .int 0
  version := r.version
  release := .str ("1.fc" ++ q.releasever.text)
  arch := q.arch
  remoteLocation := .str (Text.stripRightOf '/' (r.place repository) ++ "/Packages/" ++
    Text.lower (String.ofList (name.toList.take 1)) ++ "/" ++ r.fileStem q name ++ ".rpm")
  checksum := .str ("sha256:" ++ Digest.sha256Hex (r.fileStem q name))
  checkGpg := .bool ((repository.map (·.checkGpg)).getD false)
  ignoreSsl := .bool ((repository.map (·.ignoreSsl)).getD false)

/-- A package is that of a name in the first repository of the set that installs it first. -/
def Provides (r : Direct) (q : Request) (name : String) (p : PackageSpec) : Prop :=
  ∃ s, q.setOf name = some s ∧ p.draft = r.draftOf q s.repositories.head? name

/-- The texts that the file names of a request are made of hold no lone surrogates. A text is not
told apart from one that holds the characters which stand for them, so it holds none of these
either. -/
structure Whole (r : Direct) (q : Request) : Prop where
  names : ∀ name ∈ q.names, Text.isWhole name = true
  version : Text.isWhole r.version.text = true
  releasever : Text.isWhole q.releasever.text = true
  arch : Text.isWhole q.arch.text = true

/-- What a request is answered. -/
structure Answers (r : Direct) (q : Request) (answer : Outcome) : Prop where
  /-- Every occurrence of a name without packages is told, in order. -/
  unresolved : ∀ message, answer = .error (.unresolved message) ↔
    (∃ name ∈ q.names, r.Lacks name) ∧ ∃ names : List String,
      names.Perm (r.lacking q) ∧ names.Pairwise (· ≤ ·) ∧
        message = "no package matches: " ++ String.intercalate ", " names
  resolved : (∀ name ∈ q.names, ¬ r.Lacks name) →
    ∃ specs, answer = .ok specs ∧ List.Forall₂ (r.Provides q) q.wanted specs

/-- The answers to one request after the other, and the resolver after them. -/
def run (r : Direct) : List Request → Direct × List Outcome
  | [] => (r, [])
  | q :: rest =>
    let after := (r.resolve q).1.run rest
    (after.1, (r.resolve q).2.mapError Error.failure :: after.2)

/-! ## Names -/

theorem names_eq (q : Request) : q.names = q.installs.map (·.text) := by
  rw [Request.names, Request.installs, List.map_flatMap]
  rfl

theorem installs_eq (hq : q.Typed) : q.installs = q.names.map .str := by
  rw [names_eq, List.map_map]
  refine (List.map_id _).symm.trans (List.map_congr_left fun v hv => ?_)
  obtain ⟨name, rfl, -⟩ := hq.installs v hv
  rfl

theorem ne_empty_of_mem_names (hq : q.Typed) (h : name ∈ q.names) : name ≠ "" := by
  obtain ⟨v, hv, rfl⟩ := List.mem_map.1 (names_eq q ▸ h)
  obtain ⟨name, rfl, hne⟩ := hq.installs v hv
  exact hne

theorem isIn_excludes (hq : q.Typed) :
    Value.isIn (.str name) q.excludes = q.excludedNames.contains name := by
  rw [Bool.eq_iff_iff, Value.isIn_str, List.contains_iff_mem, Request.excludedNames, List.mem_map]
  constructor
  · exact fun h => ⟨_, h, rfl⟩
  · rintro ⟨v, hv, rfl⟩
    obtain ⟨name, rfl⟩ := hq.excludes v hv
    exact hv

theorem mem_names_of_mem_wanted (h : name ∈ q.wanted) : name ∈ q.names :=
  List.mem_of_mem_filter (List.mem_eraseDups.1 h)

theorem isWhole_fileStem (hwhole : r.Whole q) (h : name ∈ q.names) :
    Text.isWhole (r.fileStem q name) = true := by
  have hplain : Text.isWhole "-" = true ∧ Text.isWhole "-1.fc" = true ∧
      Text.isWhole "." = true := by decide
  have htext (s : String) : toString s = s := rfl
  simp only [fileStem, htext, Text.isWhole_append, Bool.and_eq_true]
  simp [hplain, hwhole.names name h, hwhole.version, hwhole.releasever, hwhole.arch]

theorem exists_setOf (h : name ∈ q.names) : ∃ s, q.setOf name = some s := by
  obtain ⟨s, hs, hname⟩ := List.mem_flatMap.1 h
  rw [← Option.isSome_iff_exists, Request.setOf, List.find?_isSome]
  exact ⟨s, hs, List.contains_iff_mem.2 hname⟩

/-! ## Packages -/

section

variable {repository : Option Repository}

theorem baseUrl_eq (h : ∀ x ∈ repository, x.Located) :
    r.baseUrl repository = .ok (Text.stripRightOf '/' (r.place repository)) := by
  unfold baseUrl place
  cases repository with
  | none => rfl
  | some repository =>
    have hlocated := h repository rfl
    simp only [Option.map_some, Option.getD_some, Option.bind_some]
    cases hurls : repository.baseurls with
    | nil => rfl
    | cons v rest =>
      obtain ⟨url, rfl⟩ := hlocated v (hurls ▸ List.mem_cons_self)
      rfl

theorem package_of_whole (h : ∀ x ∈ repository, x.Located) (hname : name ≠ "")
    (hwhole : Text.isWhole (r.fileStem q name) = true) :
    ∃ p, r.package q repository name = .ok p ∧ p.draft = r.draftOf q repository name := by
  obtain ⟨first, rest, hchars⟩ : ∃ first rest, name.toList = first :: rest :=
    List.exists_cons_of_ne_nil (mt String.toList_eq_nil_iff.1 hname)
  have hpackage : r.package q repository name =
      (PackageSpec.ofDraft (r.draftOf q repository name)).mapError .spec := by
    simp only [package, baseUrl_eq h, Text.loneHalves?_eq_none.2 hwhole, hchars, draftOf]
    rfl
  have htruthy : (r.draftOf q repository name).name.truthy = true := by
    simpa [draftOf, Value.truthy] using hname
  obtain ⟨p, hp⟩ := PackageSpec.exists_ofDraft htruthy rfl (isChecksum_sha256Hex _)
  exact ⟨p, by rw [hpackage, hp]; rfl, PackageSpec.ofDraft_eq_ok.1 hp⟩

end

/-- The offers of a request, by name. -/
def namedOffers (q : Request) : List (String × Option Repository) :=
  q.chain.flatMap fun s => s.names.map (·, s.repositories.head?)

theorem offers_eq (hq : q.Typed) :
    offers q = (namedOffers q).map fun o => (.str o.1, o.2) := by
  rw [offers, namedOffers, List.map_flatMap]
  refine List.flatMap_congr fun s hs => ?_
  rw [PackageSet.names, List.map_map, List.map_map]
  refine List.map_congr_left fun v hv => ?_
  obtain ⟨name, rfl, -⟩ := hq.installs v (List.mem_flatMap.2 ⟨s, hs, hv⟩)
  rfl

/-- The repository of the first offer of a name. -/
def repositoryIn (offers : List (String × Option Repository)) (name : String) :
    Option Repository :=
  (offers.find? (·.1 == name)).bind (·.2)

/-- Of other names, the repository does not depend on an offer in front. -/
theorem mapM_package_cons (r : Direct) (q : Request) {o : String × Option Repository}
    {names : List String} (h : ∀ name ∈ names, name ≠ o.1)
    (rest : List (String × Option Repository)) :
    names.mapM (fun name => r.package q (repositoryIn (o :: rest) name) name) =
      names.mapM fun name => r.package q (repositoryIn rest name) name := by
  refine Outcome.mapM_congr fun name hname => ?_
  rw [repositoryIn, List.find?_cons_of_neg (by simpa using (h name hname).symm), repositoryIn]

theorem repositoryIn_namedOffers (q : Request) (name : String) :
    repositoryIn (namedOffers q) name = (q.setOf name).bind (·.repositories.head?) := by
  unfold namedOffers Request.setOf repositoryIn
  induction q.chain with
  | nil => rfl
  | cons s rest ih =>
    rw [List.flatMap_cons, List.find?_append]
    by_cases hname : name ∈ s.names
    · have hcontains : s.names.contains name = true := List.contains_iff_mem.2 hname
      obtain ⟨o, ho⟩ : ∃ o,
          (s.names.map (·, s.repositories.head?)).find? (·.1 == name) = some o := by
        rw [← Option.isSome_iff_exists, List.find?_isSome]
        exact ⟨_, List.mem_map_of_mem hname, beq_self_eq_true name⟩
      obtain ⟨n, -, rfl⟩ := List.mem_map.1 (List.mem_of_find?_eq_some ho)
      rw [ho, List.find?_cons, hcontains]
      rfl
    · rw [List.find?_cons_of_neg (by simpa using hname), ← ih, List.find?_eq_none.2, Option.none_or]
      intro o ho
      obtain ⟨n, hn, rfl⟩ := List.mem_map.1 ho
      exact fun h => hname (beq_iff_eq.1 h ▸ hn)

/-- A name gets a package: it is no group, it is not excluded and it was not seen before. -/
def keeps (excluded : List Value) (seen : List String) (name : String) : Bool :=
  !(isGroup name || Value.isIn name excluded || seen.contains name)

section

variable (excluded : List Value) (seen : List String)

theorem keeps_cons (first name : String) :
    keeps excluded (first :: seen) name = (!name == first && keeps excluded seen name) := by
  rw [keeps, keeps, List.contains_cons]
  cases name == first <;> simp

theorem packages_cons (r : Direct) (q : Request) (name : String) (repository : Option Repository)
    (rest : List (Value × Option Repository)) :
    r.packages q excluded seen ((.str name, repository) :: rest) =
      if keeps excluded seen name then do
        let p ← r.package q repository name
        return p :: (← r.packages q excluded (name :: seen) rest)
      else r.packages q excluded seen rest := by
  have hstep : r.packages q excluded seen ((.str name, repository) :: rest) =
      if isGroup name || Value.isIn name excluded || seen.contains name then
        r.packages q excluded seen rest
      else do
        let p ← r.package q repository name
        return p :: (← r.packages q excluded (name :: seen) rest) := rfl
  rw [hstep, keeps]
  split
  · next hskip => simp only [hskip, Bool.not_true, Bool.false_eq_true, if_false]
  · next hkeep => rw [if_pos (by simpa using hkeep)]

/-- Packages are those of the names that occur first, each with the repository it occurs with. -/
theorem packages_eq (r : Direct) (q : Request) (offers : List (String × Option Repository)) :
    r.packages q excluded seen (offers.map fun o => (.str o.1, o.2)) =
      ((offers.map (·.1)).filter (keeps excluded seen)).eraseDups.mapM
        fun name => r.package q (repositoryIn offers name) name := by
  -- Each package adds a name to those that were seen, so the induction is for any of them.
  induction offers generalizing seen with
  | nil => rfl
  | cons o rest ih =>
    rw [List.map_cons, packages_cons, List.map_cons]
    by_cases hkeep : keeps excluded seen o.1 = true
    · have hfirst : repositoryIn (o :: rest) o.1 = o.2 := by simp [repositoryIn]
      have hrest : ((rest.map (·.1)).filter (keeps excluded seen)).filter (!· == o.1) =
          (rest.map (·.1)).filter (keeps excluded (o.1 :: seen)) := by
        rw [List.filter_filter]
        exact List.filter_congr fun name _ => (keeps_cons excluded seen o.1 name).symm
      rw [if_pos hkeep, List.filter_cons_of_pos hkeep, List.eraseDups_cons, List.mapM_cons, hfirst,
        hrest, mapM_package_cons, ih]
      intro name hname heq
      have hkept := List.of_mem_filter (List.mem_eraseDups.1 hname)
      rw [keeps_cons, heq, beq_self_eq_true] at hkept
      cases hkept
    · -- no later name is that of the offer: it would not be kept either
      rw [if_neg hkeep, List.filter_cons_of_neg hkeep, mapM_package_cons, ih]
      intro name hname heq
      exact hkeep (heq ▸ List.of_mem_filter (List.mem_eraseDups.1 hname))

end

/-! ## Answers -/

/-- The names without packages are told in order. -/
theorem missing_eq (r : Direct) (hq : q.Typed) :
    r.missing q = .ok (Text.sort (r.lacking q)) := by
  have hlacking : q.installs.filter (Value.isIn · r.unavailable) =
      (r.lacking q).map .str := by
    rw [installs_eq hq, List.filter_map]
    refine congrArg _ (List.filter_congr fun name _ => ?_)
    rw [Bool.eq_iff_iff, decide_eq_true_iff]
    exact Value.isIn_str
  have htexts : ∀ texts : List String, (texts.map Value.str).mapM Value.asText = .ok texts := by
    intro texts
    rw [Outcome.mapM_eq_ok, List.forall₂_map_left_iff, List.forall₂_same]
    exact fun _ _ => rfl
  rw [missing, hlacking, htexts]
  rfl

theorem isAtomic_of_typed (hq : q.Typed) :
    (q.excludes ++ q.installs).all Value.isAtomic = true := by
  rw [List.all_eq_true]
  intro v hv
  rcases List.mem_append.1 hv with hv | hv
  · obtain ⟨name, rfl⟩ := hq.excludes v hv
    rfl
  · obtain ⟨name, rfl, -⟩ := hq.installs v hv
    rfl

/-- The package of a name, from the first repository of the set that installs it first. -/
def packageFor (r : Direct) (q : Request) (name : String) : Except Error PackageSpec :=
  r.package q ((q.setOf name).bind (·.repositories.head?)) name

theorem packages_offers (r : Direct) (hq : q.Typed) : r.packages q q.excludes [] (offers q) =
    q.wanted.mapM (r.packageFor q) := by
  have hnames : (namedOffers q).map (·.1) = q.names := by
    simp only [namedOffers, Request.names, List.map_flatMap, List.map_map]
    exact congrArg (q.chain.flatMap ·) (funext fun s => List.map_id s.names)
  have hwanted : q.names.filter (keeps q.excludes []) =
      q.names.filter fun name => !isGroup name && !q.excludedNames.contains name :=
    List.filter_congr fun name _ => by rw [keeps, isIn_excludes hq]; simp
  simp only [offers_eq hq, packages_eq, hnames, hwanted, repositoryIn_namedOffers, Request.wanted]
  rfl

/-- What a request is answered: the names without packages, or one package after the other. -/
theorem answer_eq (r : Direct) (hq : q.Typed) : r.answer q =
    if r.lacking q = [] then q.wanted.mapM (r.packageFor q)
    else .error (.noPackages (Text.sort (r.lacking q))) := by
  simp only [answer, isAtomic_of_typed hq, missing_eq r hq, packages_offers r hq]
  by_cases hnone : r.lacking q = []
  · rw [hnone]
    rfl
  · have hempty : (Text.sort (r.lacking q)).isEmpty = false := by
      rw [Text.isEmpty_sort]
      simpa using hnone
    rw [if_neg hnone]
    change (if (!(Text.sort (r.lacking q)).isEmpty) = true then _ else _) = _
    rw [hempty]
    rfl

theorem lacking_eq_nil_iff : r.lacking q = [] ↔ ∀ name ∈ q.names, ¬ r.Lacks name := by
  simp [lacking, List.filter_eq_nil_iff]

theorem located_of_setOf (hq : q.Typed) {s : PackageSet} (hs : q.setOf name = some s) :
    ∀ x ∈ s.repositories.head?, x.Located := by
  intro x hx
  exact hq.located x
    (List.mem_flatMap.2 ⟨s, List.mem_of_find?_eq_some hs, List.mem_of_mem_head? hx⟩)

theorem provides_packageFor (hq : q.Typed) (hwhole : r.Whole q) (hname : name ∈ q.wanted) :
    ∃ p, r.packageFor q name = .ok p ∧ r.Provides q name p := by
  have hmem := mem_names_of_mem_wanted hname
  obtain ⟨s, hs⟩ := exists_setOf hmem
  obtain ⟨p, hp, hdraft⟩ := package_of_whole (located_of_setOf hq hs)
    (ne_empty_of_mem_names hq hmem) (isWhole_fileStem hwhole hmem)
  rw [packageFor, hs]
  exact ⟨p, hp, s, hs, hdraft⟩

/-- Where there are packages for all names, each name gets its own. -/
theorem exists_specs (hq : q.Typed) (hwhole : r.Whole q) (hnone : r.lacking q = []) :
    ∃ specs, r.answer q = .ok specs ∧ List.Forall₂ (r.Provides q) q.wanted specs := by
  rw [answer_eq r hq, if_pos hnone]
  exact Outcome.exists_mapM_forall₂ fun name hname => provides_packageFor hq hwhole hname

/-- A request with names that there are no packages for is not resolved, and no other one is. -/
theorem outcome_eq_unresolved_iff (hq : q.Typed) (hwhole : r.Whole q) {message : String} :
    r.outcome q = .error (.unresolved message) ↔ (∃ name ∈ q.names, r.Lacks name) ∧
      message = "no package matches: " ++ String.intercalate ", " (Text.sort (r.lacking q)) := by
  have hlacks : (∃ name ∈ q.names, r.Lacks name) ↔ r.lacking q ≠ [] := by
    simp [ne_eq, lacking_eq_nil_iff]
  rw [hlacks, outcome]
  by_cases hnone : r.lacking q = []
  · obtain ⟨specs, hspecs, -⟩ := exists_specs hq hwhole hnone
    rw [hspecs]
    exact iff_of_false nofun fun h => h.1 hnone
  · have hfailure (names : List String) :
        (Except.error (.noPackages names)).mapError Error.failure = (.error (.unresolved
          ("no package matches: " ++ String.intercalate ", " names)) : Outcome) := rfl
    rw [answer_eq r hq, if_neg hnone, and_iff_right hnone, hfailure, Except.error.injEq,
      Failure.unresolved.injEq, eq_comm]

/-- What any request is answered. -/
theorem answers_outcome (hq : q.Typed) (hwhole : r.Whole q) : r.Answers q (r.outcome q) := by
  refine ⟨fun message => ?_, fun hnone => ?_⟩
  · rw [outcome_eq_unresolved_iff hq hwhole]
    refine and_congr_right fun _ => ?_
    constructor
    · rintro rfl
      obtain ⟨hperm, hsorted⟩ := Text.eq_sort_iff.1 rfl
      exact ⟨_, hperm, hsorted, rfl⟩
    · rintro ⟨names, hperm, hsorted, rfl⟩
      rw [Text.eq_sort_iff.2 ⟨hperm, hsorted⟩]
  · obtain ⟨specs, hspecs, hprovided⟩ := exists_specs hq hwhole (lacking_eq_nil_iff.2 hnone)
    exact ⟨specs, by rw [outcome, hspecs]; rfl, hprovided⟩

/-! ## Calls -/

theorem packages_record (r : Direct) (q : Request) (requests : List Request)
    (excluded : List Value) (seen : List String) (offers : List (Value × Option Repository)) :
    ({ r with requests } : Direct).packages q excluded seen offers =
      r.packages q excluded seen offers := by
  induction offers generalizing seen with
  | nil => rfl
  | cons o rest ih =>
    simp only [packages, ih]
    rfl

/-- What a resolver has seen does not change its answers. -/
theorem outcome_resolve (r : Direct) (q q' : Request) :
    (r.resolve q).1.outcome q' = r.outcome q' := by
  unfold outcome resolve answer
  simp only [packages_record]
  rfl

theorem run_eq (r : Direct) (calls : List Request) :
    r.run calls = ({ r with requests := r.requests ++ calls }, calls.map r.outcome) := by
  induction calls generalizing r with
  | nil => simp [run]
  | cons q rest ih =>
    have houtcomes : rest.map (r.resolve q).1.outcome = rest.map r.outcome :=
      List.map_congr_left fun q' _ => outcome_resolve r q q'
    rw [run, ih, houtcomes]
    simp [resolve, outcome]

theorem requests_of_ofValues {unavailable version home : Value}
    (h : ofValues unavailable version home = .ok r) : r.requests = [] := by
  have hmade (names : List Value) (h : (do
      if !names.all Value.isAtomic then throw Value.Mismatch.wrongType
      return ({ unavailable := names, version, home := ← home.asText } : Direct)) = .ok r) :
      r.requests = [] := by
    split at h
    · cases h
    · obtain ⟨_, -, hr⟩ := Outcome.bind_eq_ok.1 h
      cases hr
      rfl
  unfold ofValues at h
  split at h
  · obtain ⟨names, -, h⟩ := Outcome.bind_eq_ok.1 h
    exact hmade names h
  · exact hmade [] h

/-- Every call is recorded, and every request is answered as if it were the only one. -/
theorem answers_run (r : Direct) (calls : List Request) (h : ∀ q ∈ calls, q.Typed)
    (hwhole : ∀ q ∈ calls, r.Whole q) :
    (r.run calls).1.requests = r.requests ++ calls ∧
    List.Forall₂ r.Answers calls (r.run calls).2 ∧
    ∀ unavailable version home, ofValues unavailable version home = .ok r →
      (r.run calls).1.requests.length = calls.length := by
  rw [run_eq]
  refine ⟨rfl, ?_, fun unavailable version home hr => ?_⟩
  · rw [List.forall₂_map_right_iff, List.forall₂_same]
    exact fun q hq => answers_outcome (h q hq) (hwhole q hq)
  · rw [requests_of_ofValues hr, List.nil_append]

theorem has_source_baseurl (url : String) :
    (!([.str url] : List Value).isEmpty || Value.null.truthy || Value.null.truthy) = true := rfl

def mirrorAt (url : String) : Repository where
  id := ⟨"updates", by decide⟩
  baseurls := [.str url]
  metalink := .null
  mirrorlist := .null
  gpgKeys := []
  checkGpg := true
  checkRepoGpg := false
  ignoreSsl := false
  packageSets := []
  has_source := has_source_baseurl url

def requestOf (chain : List PackageSet) : Request where
  arch := "x86_64"
  releasever := "38"
  modulePlatformId := "platform:f38"
  chain

/-- A set installs again what the one before it does, and excludes some of it. -/
def layered : List PackageSet :=
  [{ install := ["bash", "@core", "vim", "nano"], repositories := [mirrorAt "https://one/"] },
    { install := ["vim", "zsh", "bash"], exclude := ["nano"] }]

/-- A set excludes what there are no packages for. -/
def misspelt : List PackageSet :=
  [{ install := ["bash", "nan", "@cor"] }, { install := ["nan"], exclude := ["nan"] }]

theorem answers_run_layered :
    let r : Direct := { unavailable := ["nan", "@cor"] }
    let calls := [requestOf misspelt, requestOf layered]
    (∀ q ∈ calls, q.Typed ∧ r.Whole q) ∧ (r.run calls).1.requests.length = 2 ∧ ∃ specs,
      (r.run calls).2 = [.error (.unresolved "no package matches: @cor, nan, nan"), .ok specs] ∧
        List.Forall₂ (r.Provides (requestOf layered)) ["bash", "vim", "zsh"] specs := by
  intro r calls
  have htyped : ∀ q ∈ calls, q.Typed := by
    intro q hq
    rcases List.mem_pair.1 hq with rfl | rfl
    · constructor <;> simp [requestOf, misspelt, Request.installs, Request.excludes,
        Request.repositories]
    · constructor <;> simp [requestOf, layered, Request.installs, Request.excludes,
        Request.repositories, mirrorAt, Repository.Located]
  have hwhole : ∀ q ∈ calls, r.Whole q := by
    intro q hq
    rcases List.mem_pair.1 hq with rfl | rfl
    · constructor <;> decide
    · constructor <;> decide
  obtain ⟨hrequests, hanswers, -⟩ := answers_run r calls htyped hwhole
  obtain ⟨first, rest, hfirst, hrest, hall⟩ := List.forall₂_cons_left_iff.1 hanswers
  obtain ⟨second, others, hsecond, hothers, rfl⟩ := List.forall₂_cons_left_iff.1 hrest
  obtain rfl := List.forall₂_nil_left_iff.1 hothers
  have hunresolved : first = .error (.unresolved "no package matches: @cor, nan, nan") :=
    (hfirst.unresolved _).2 ⟨⟨"nan", by decide, by simp [Lacks, r]⟩, ["@cor", "nan", "nan"],
      by decide, by decide, rfl⟩
  obtain ⟨specs, hspecs, hprovided⟩ := hsecond.resolved (lacking_eq_nil_iff.1 (by decide))
  refine ⟨fun q hq => ⟨htyped q hq, hwhole q hq⟩, by rw [hrequests]; rfl, specs, ?_, ?_⟩
  · rw [hall, hunresolved, hspecs]
  · have hwanted : (requestOf layered).wanted = ["bash", "vim", "zsh"] := by decide
    rwa [hwanted] at hprovided

/-- A name that is a lone surrogate, which its stand-in holds. -/
def half : String := String.singleton (Text.standIn 0xD800)

/-- There are packages for every name, and yet one has none. -/
theorem not_resolved_half :
    (requestOf [.ofNames [half]]).Typed ∧
    (∀ name ∈ (requestOf [.ofNames [half]]).names, ¬ ({} : Direct).Lacks name) ∧
    ({} : Direct).outcome (requestOf [.ofNames [half]]) = .error (.broken
      "'utf-8' codec can't encode character '\\ud800' in position 0: surrogates not allowed") := by
  refine ⟨?_, by simp [Lacks], rfl⟩
  constructor
  · intro v hv
    rw [List.mem_singleton.1 hv]
    exact ⟨half, rfl, by decide⟩
  · simp [requestOf, PackageSet.ofNames, Request.excludes]
  · simp [requestOf, PackageSet.ofNames, Request.repositories]

end Direct
end Resolve
end Imagewright
