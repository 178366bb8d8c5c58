import Imagewright.Proofs.Blueprint.Kinds
import Imagewright.Proofs.Manifest.Shapes
import Imagewright.Value.Text

/-!
# Accounts of an image

The groups and the users of a blueprint are written by their names. Of several groups or users of
one name only the last is written, and of several keys for one user the last.

## Main definitions

* `Blueprint.User.told`: what a blueprint says about a user.
* `Manifest.entryOf`: what is written for the name of a group or a user.
* `Manifest.LastCounts`: the last group, user and key of a name are written.
* `Manifest.AllKept`: every group, every user and every key is written.
* `Manifest.Agreeing`: nothing is said twice in different ways.

## Main statements

* `Manifest.userEntries_eq_ok`: the table of users is an association list.
* `Manifest.get?_accountTable`: an entry is that of the last user with the last key.
* `Manifest.accounts_of_validate`: what is written of the accounts of an accepted request.
-/
namespace Imagewright

theorem Value.eq_text {v : Value} (h : v.isText = true) : v = .str v.text := by
  obtain ⟨s, rfl⟩ := isText_iff.1 h
  rfl

/-- What a blueprint says about a user. Null is said where nothing is. -/
def Blueprint.User.told (u : User) : List (String × Value) := [
  ("description", u.description), ("password", u.password), ("key", u.key), ("home", u.home),
  ("shell", u.shell), ("uid", u.uid), ("gid", u.gid),
  ("groups", if u.groups.isEmpty then .null else .list u.groups)]

/-- Each field is said once. -/
theorem Blueprint.User.nodup_told (u : User) : (Assoc.keys u.told).Nodup := by
  simp [Assoc.keys, User.told]

namespace Manifest

open Blueprint (Customizations SshKey User)
open Disk (MountpointPolicy)
open Outcome

/-! ## What is said and what is written -/

/-- What is written for a name in the stage of a type. -/
def entryOf (type : String) (ss : List Stage) (name : String) : Option Value :=
  (stagesOf type ss).head?.bind fun s =>
    ((s.render.at? "options").bind (·.at? type)).bind (·.at? name)

/-- A field of what is written for a user. -/
def fieldOf (ss : List Stage) (user field : String) : Option Value :=
  (entryOf "users" ss user).bind (·.at? field)

/-- The last group, user and key of a name are written, and nothing else. -/
structure LastCounts (c : Customizations) (ss : List Stage) : Prop where
  groups : ∀ name, entryOf "groups" ss name =
    (Assoc.lastNamed? (·.name.text) c.groups name).map fun g =>
      .obj (if g.gid.isNull then [] else [("gid", g.gid)])
  users : ∀ name, (entryOf "users" ss name).isSome =
    ((Assoc.lastNamed? (·.name.text) c.users name).isSome ||
      (Assoc.lastNamed? (·.user.text) c.sshKeys name).isSome)
  fields : ∀ name field, fieldOf ss name field =
    (if field = "key" then (Assoc.lastNamed? (·.user.text) c.sshKeys name).map (·.key)
      else none).or
      ((Assoc.lastNamed? (·.name.text) c.users name).bind fun u =>
        (Assoc.get? u.told field).filter (!·.isNull))

/-- Every group has its number or none, every user what is said about it, and every key its user. -/
structure AllKept (c : Customizations) (ss : List Stage) : Prop where
  groups : ∀ g ∈ c.groups, entryOf "groups" ss g.name.text =
    some (.obj (if g.gid.isNull then [] else [("gid", g.gid)]))
  users : ∀ u ∈ c.users, (entryOf "users" ss u.name.text).isSome ∧
    ∀ field v, (field, v) ∈ u.told → v ≠ .null → fieldOf ss u.name.text field = some v
  keys : ∀ k ∈ c.sshKeys, fieldOf ss k.user.text "key" = some k.key

/-- Nothing is said twice in different ways. -/
structure Agreeing (c : Customizations) : Prop where
  groups : ∀ g ∈ c.groups, ∀ g' ∈ c.groups, g.name.text = g'.name.text → g.gid = g'.gid
  users : ∀ u ∈ c.users, ∀ u' ∈ c.users, u.name.text = u'.name.text → u.told = u'.told
  keys : ∀ k ∈ c.sshKeys, ∀ k' ∈ c.sshKeys, k.user = k'.user → k.key = k'.key
  own : ∀ u ∈ c.users, ∀ k ∈ c.sshKeys, k.user = .str u.name.text →
    u.key = .null ∨ u.key = k.key

/-! ## Entries by texts -/

namespace Entries

/-- The entries of a table whose keys are texts. -/
def ofTexts (m : Assoc String (List (String × Value))) : Entries := m.map fun e => (.str e.1, e.2)

variable {m : Assoc String (List (String × Value))} {name : String}

theorem ofTexts_cons (e : String × List (String × Value)) :
    ofTexts (e :: m) = (.str e.1, e.2) :: ofTexts m := rfl

theorem get?_ofTexts : (ofTexts m).get? (.str name) = m.get? name := by
  induction m with
  | nil => rfl
  | cons e rest ih =>
    rw [ofTexts_cons, get?, List.find?_cons, Value.same]
    cases h : e.1 == name
    · rw [Assoc.get?, h]
      exact ih
    · simp [h, Assoc.get?]

theorem set_ofTexts (fields : List (String × Value)) :
    (ofTexts m).set (.str name) fields = ofTexts (m.set name fields) := by
  induction m with
  | nil => rfl
  | cons e rest ih =>
    rw [ofTexts_cons, set, Value.same]
    cases h : e.1 == name
    · simp [h, ih, Assoc.set, ofTexts_cons]
    · simp_all [Assoc.set, ofTexts_cons]

theorem render_ofTexts (h : m.keys.Nodup) (nullName : String) :
    (ofTexts m).render nullName = .obj (m.map fun e => (e.1, .obj e.2)) := by
  have hnamed : (ofTexts m).filterMap (fun e => (name? nullName e.1).map (·, Value.obj e.2)) =
      m.map fun e => (e.1, .obj e.2) := by
    rw [ofTexts, List.filterMap_map, ← List.filterMap_eq_map]
    rfl
  have hkeys : (m.map fun e => (e.1, Value.obj e.2)).map (·.1) = m.keys :=
    Assoc.keys_map m Value.obj
  rw [render, hnamed, Assoc.ofList_of_nodup (hkeys ▸ h)]

end Entries

/-! ## The table of users -/

/-- The users by their names. -/
def userTable (users : List User) : Assoc String (List (String × Value)) :=
  Assoc.ofList (users.map fun u => (u.name.text, userFields u))

/-- A table of users with a key for one of them. -/
def withKey (m : Assoc String (List (String × Value))) (k : SshKey) :
    Assoc String (List (String × Value)) :=
  m.set k.user.text (Assoc.set ((m.get? k.user.text).getD []) "key" k.key)

/-- The users by their names, with the keys for them. -/
def accountTable (c : Customizations) : Assoc String (List (String × Value)) :=
  c.sshKeys.foldl withKey (userTable c.users)

/-- The last key for a user. -/
def lastKey? (keys : List SshKey) (name : String) : Option Value :=
  (Assoc.lastNamed? (·.user.text) keys name).map (·.key)

section

variable {c : Customizations}

theorem user_eq {k : SshKey} (h : k.wellTyped = true) : k.user = .str k.user.text := by
  simp only [Blueprint.SshKey.wellTyped, Bool.and_eq_true] at h
  exact Value.eq_text h.1

theorem foldl_users_eq (users : List User) :
    users.foldl (fun entries u => Entries.set entries (.str u.name.text) (userFields u)) [] =
      Entries.ofTexts (userTable users) := by
  rw [userTable, Assoc.ofList, List.foldl_map]
  change users.foldl _ (Entries.ofTexts []) = _
  exact List.foldl_hom Entries.ofTexts fun m u => Entries.set_ofTexts (userFields u)

theorem foldlM_keys_eq_ok {keys : List SshKey} (h : ∀ k ∈ keys, k.wellTyped = true)
    (m : Assoc String (List (String × Value))) :
    keys.foldlM (fun (entries : Entries) k =>
      entries.put k.user (Assoc.set ((entries.get? k.user).getD []) "key" k.key))
      (Entries.ofTexts m) = .ok (Entries.ofTexts (keys.foldl withKey m)) := by
  induction keys generalizing m with
  | nil => rfl
  | cons k keys ih =>
    obtain ⟨hk, hkeys⟩ := List.forall_mem_cons.1 h
    have hput : (Entries.ofTexts m).put k.user
        (Assoc.set (((Entries.ofTexts m).get? k.user).getD []) "key" k.key) =
          .ok (Entries.ofTexts (withKey m k)) := by
      rw [user_eq hk, Entries.get?_ofTexts, withKey, ← Entries.set_ofTexts]
      rfl
    rw [List.foldlM_cons, hput, ok_bind, ih hkeys, List.foldl_cons]

/-- The table of users is an association list. -/
theorem userEntries_eq_ok (h : c.WellTyped) :
    userEntries c = .ok (Entries.ofTexts (accountTable c)) := by
  rw [userEntries, foldl_users_eq]
  exact foldlM_keys_eq_ok h.sshKeys _

theorem nodup_keys_foldl_withKey (keys : List SshKey) {m : Assoc String (List (String × Value))}
    (h : m.keys.Nodup) : (keys.foldl withKey m).keys.Nodup := by
  induction keys generalizing m with
  | nil => exact h
  | cons k keys ih => exact ih (Assoc.nodup_keys_set h _ _)

theorem lastKey?_cons (k : SshKey) (keys : List SshKey) (name : String) :
    lastKey? (k :: keys) name =
      (lastKey? keys name).or (if k.user.text = name then some k.key else none) := by
  simp only [lastKey?, ← Assoc.last?_map, List.map_cons, Assoc.last?_cons, beq_iff_eq]

theorem get?_userTable (users : List User) (name : String) :
    (userTable users).get? name =
      (Assoc.lastNamed? (·.name.text) users name).map userFields := by
  rw [userTable, Assoc.get?_ofList]
  exact Assoc.last?_map ..

theorem get?_foldl_withKey (keys : List SshKey) (m : Assoc String (List (String × Value)))
    (name : String) :
    (keys.foldl withKey m).get? name = match lastKey? keys name with
      | some key => some (Assoc.set ((m.get? name).getD []) "key" key)
      | none => m.get? name := by
  induction keys generalizing m with
  | nil => rfl
  | cons k keys ih =>
    rw [List.foldl_cons, ih, withKey, lastKey?_cons, Assoc.get?_set]
    by_cases hk : k.user.text = name
    · cases lastKey? keys name <;> simp [hk, Assoc.set_set]
    · simp [hk]

/-- An entry is that of the last user with the last key. -/
theorem get?_accountTable (name : String) :
    (accountTable c).get? name = match lastKey? c.sshKeys name with
      | some key => some (Assoc.set (((userTable c.users).get? name).getD []) "key" key)
      | none => (userTable c.users).get? name := get?_foldl_withKey ..

theorem givenField_eq (key : String) (v : Value) :
    givenField key v = [(key, v)].filter (!·.2.isNull) := by
  cases h : v.isNull <;> simp [givenField, h]

theorem listField_eq (key : String) (items : List Value) :
    listField key items =
      [(key, if items.isEmpty then Value.null else .list items)].filter (!·.2.isNull) := by
  cases h : items.isEmpty <;> simp [listField, h, Value.isNull]

/-- What is written of a user is what is said and not null. -/
theorem userFields_eq (u : User) : userFields u = u.told.filter (!·.2.isNull) := by
  simp only [userFields, givenField_eq, listField_eq, ← List.filter_append]
  rfl

theorem get?_userFields (u : User) (field : String) :
    Assoc.get? (userFields u) field = (Assoc.get? u.told field).filter (!·.isNull) := by
  rw [userFields_eq]
  exact Assoc.get?_filter u.nodup_told (!·.isNull) field

/-- A field of an entry is the last key, or what the last user says. -/
theorem get?_field (name field : String) :
    ((accountTable c).get? name).bind (Assoc.get? · field) =
      (if field = "key" then lastKey? c.sshKeys name else none).or
        ((Assoc.lastNamed? (·.name.text) c.users name).bind fun u =>
          (Assoc.get? u.told field).filter (!·.isNull)) := by
  rw [get?_accountTable, get?_userTable]
  cases hkey : lastKey? c.sshKeys name with
  | some key => by_cases hf : field = "key" <;>
      cases Assoc.lastNamed? (·.name.text) c.users name <;>
      simp [hf, Ne.symm, get?_userFields]
  | none => cases Assoc.lastNamed? (·.name.text) c.users name <;> simp [get?_userFields]

/-! ## Stages -/

variable {ss : List Stage}

theorem stagesOf_ite (type : String) (p : Prop) [Decidable p] (ss ts : List Stage) :
    stagesOf type (if p then ss else ts) = if p then stagesOf type ss else stagesOf type ts :=
  apply_ite ..

/-- The stages for accounts are the only ones of their types. -/
theorem stagesOf_customizationStages (h : customizationStages c = .ok ss)
    {type : String} (ht : type = "groups" ∨ type = "users") :
    ∃ accounts, accountStages c = .ok accounts ∧ stagesOf type ss = stagesOf type accounts := by
  obtain ⟨accounts, nodes, haccounts, hnodes, rfl⟩ := customizationStages_eq_ok.1 h
  obtain ⟨directories, owners, modes, -, -, -, rfl⟩ := nodeStages_eq_ok.1 hnodes
  refine ⟨accounts, haccounts, ?_⟩
  have hnil : stagesOf type [] = [] := rfl
  have hkeyed : ∀ other options keyed, other ∉ ["groups", "users"] →
      stagesOf type [{ stage other options with keyed := keyed }] = [] := by
    intro other options keyed hother
    refine stagesOf_eq_nil fun s hs he => ?_
    obtain rfl := List.mem_singleton.1 hs
    obtain rfl : other = type := (String.append_right_inj _).1 he
    simp [ht] at hother
  have hother : ∀ other options, other ∉ ["groups", "users"] →
      stagesOf type [stage other options] = [] := fun other options => hkeyed other options []
  have hentries : ∀ other entries, other ∉ ["groups", "users"] →
      stagesOf type (entriesStage other entries) = [] := by
    intro other entries h
    rw [entriesStage, stagesOf_ite, hnil, hkeyed _ _ _ h, ite_self]
  have hfirewall : stagesOf type (c.firewall.map firewallStage).toList = [] := by
    cases c.firewall with
    | none => rfl
    | some f => exact hother _ _ (by decide)
  have hopenscap : stagesOf type (openscapStages c) = [] := by
    unfold openscapStages
    split
    · rfl
    · exact hother _ _ (by decide)
  simp only [localeStages, hostnameStages, timezoneStages, stagesOf_append, stagesOf_ite]
  simp [hnil, hother, hentries, hfirewall, hopenscap]

/-- What is written of the groups. -/
theorem entryOf_groups (h : customizationStages c = .ok ss) (name : String) :
    entryOf "groups" ss name = Assoc.get? (groupEntries c.groups) name := by
  obtain ⟨accounts, haccounts, hstages⟩ := stagesOf_customizationStages h (.inl rfl)
  obtain ⟨users, husers, rfl⟩ := accountStages_eq_ok.1 haccounts
  have hsilent : stagesOf "groups" users = [] :=
    (ofTypes_optionalUsers husers).stagesOf_eq_nil (by decide)
  rw [entryOf, hstages, stagesOf_append, hsilent, List.append_nil]
  cases hgroups : c.groups with
  | nil => rfl
  | cons g groups =>
    simp only [List.isEmpty_cons, Bool.false_eq_true, if_false, groupsStage, hgroups]
    rfl

/-- What is written of the users. -/
theorem entryOf_users (hw : c.WellTyped) (h : customizationStages c = .ok ss) (name : String) :
    entryOf "users" ss name = ((accountTable c).get? name).map .obj := by
  obtain ⟨accounts, haccounts, hstages⟩ := stagesOf_customizationStages h (.inr rfl)
  obtain ⟨users, husers, rfl⟩ := accountStages_eq_ok.1 haccounts
  have hsilent : stagesOf "users" (if c.groups.isEmpty then [] else [groupsStage c]) = [] := by
    split <;> rfl
  rw [entryOf, hstages, stagesOf_append, hsilent, List.nil_append]
  split at husers
  · next hempty =>
    obtain rfl := husers
    simp only [Bool.and_eq_true, List.isEmpty_iff] at hempty
    simp only [accountTable, hempty]
    rfl
  · obtain ⟨s, hs, rfl⟩ := husers
    obtain ⟨entries, hentries, rfl⟩ := usersStage_eq_ok.1 hs
    obtain rfl := Except.ok.inj (hentries.symm.trans (userEntries_eq_ok hw))
    have hkeys : (accountTable c).keys.Nodup :=
      nodup_keys_foldl_withKey _ (Assoc.nodup_keys_ofList _)
    change ((Entries.ofTexts (accountTable c)).render Stage.jsonNullName).at? name = _
    rw [Entries.render_ofTexts hkeys, Value.at?]
    exact Assoc.get?_map ..

/-! ## Which customizations are kept -/

/-- The last group, user and key of a name are written. -/
theorem lastCounts_customizationStages (hw : c.WellTyped) (h : customizationStages c = .ok ss) :
    LastCounts c ss where
  groups name := by
    rw [entryOf_groups h, groupEntries, Assoc.get?_ofList]
    exact Assoc.last?_map ..
  users name := by
    rw [entryOf_users hw h, get?_accountTable, get?_userTable, lastKey?, Option.isSome_map]
    cases Assoc.lastNamed? (·.user.text) c.sshKeys name <;> simp
  fields name field := by
    rw [fieldOf, entryOf_users hw h, ← lastKey?, ← get?_field]
    cases (accountTable c).get? name <;> rfl

theorem get?_told {u : User} {field : String} {v : Value} (h : (field, v) ∈ u.told) :
    Assoc.get? u.told field = some v := (Assoc.get?_eq_some_iff u.nodup_told).2 h

/-- Where nothing is said twice in different ways, the last ones say everything. -/
theorem LastCounts.allKept (h : LastCounts c ss) (hw : c.WellTyped) (ha : Agreeing c) :
    AllKept c ss where
  groups g hg := by
    obtain ⟨g', hg', hname, hlast⟩ := Assoc.exists_lastNamed? (·.name.text) hg
    rw [h.groups, hlast, ha.groups g hg g' hg' hname.symm]
    rfl
  users u hu := by
    obtain ⟨u', hu', hname, hlast⟩ := Assoc.exists_lastNamed? (·.name.text) hu
    refine ⟨by rw [h.users, hlast]; rfl, fun field v hv hnull => ?_⟩
    have hgiven : (Assoc.get? u'.told field).filter (!·.isNull) = some v := by
      rw [← ha.users u hu u' hu' hname.symm, get?_told hv]
      simpa [Option.filter, ← Value.isNull_iff] using hnull
    rw [h.fields, hlast, Option.bind_some, hgiven]
    split
    · next hfield =>
      subst hfield
      have hkey : u.key = v := Option.some.inj (get?_told hv)
      cases hlastKey : Assoc.lastNamed? (·.user.text) c.sshKeys u.name.text with
      | none => rfl
      | some k =>
        obtain ⟨hk, huser⟩ := Assoc.mem_of_lastNamed? hlastKey
        have hown := ha.own u hu k hk (huser ▸ user_eq (hw.sshKeys k hk))
        rw [hkey] at hown
        exact congrArg some (hown.resolve_left hnull).symm
    · rfl
  keys k hk := by
    obtain ⟨k', hk', hname, hlast⟩ := Assoc.exists_lastNamed? (·.user.text) hk
    have huser : k.user = k'.user := by
      rw [user_eq (hw.sshKeys k hk), user_eq (hw.sshKeys k' hk'), hname]
    rw [h.fields, if_pos rfl, hlast, ha.keys k hk k' hk' huser]
    rfl

/-- The accounts of an accepted request are written as the last group, user and key of each name
say. Where nothing is said twice in different ways, all of it is written. -/
theorem accounts_of_validate {policy : MountpointPolicy} {t : Catalog.ImageType} {b : Blueprint}
    {o : Request.Options} {ws : List Request.Warning} (hb : b.WellTyped)
    (hv : Request.validate policy t b o = .ok ws) :
    ∃ ss, customizationStages b.settings = .ok ss ∧ LastCounts b.settings ss ∧
      (Agreeing b.settings → AllKept b.settings ss) := by
  obtain ⟨-, -, -, -, -, -, -, -, hmodes, -⟩ :=
    Request.checkTree_eq_ok.1 (Request.validate_eq_ok.1 hv).1.tree
  obtain ⟨ss, hss⟩ := succeeds_customizationStages hb.settings.usable hmodes
  have hlast := lastCounts_customizationStages hb.settings hss
  exact ⟨ss, hss, hlast, hlast.allKept hb.settings⟩

end

/-- A blueprint that asks for users and for keys. -/
def withAccounts (users : List User) (sshKeys : List SshKey) : Blueprint where
  customizations := some { users := users, sshKeys := sshKeys }

theorem wellTyped_withAccounts {users : List User} {sshKeys : List SshKey}
    (hu : ∀ u ∈ users, u.wellTyped = true) (hk : ∀ k ∈ sshKeys, k.wellTyped = true) :
    (withAccounts users sshKeys).WellTyped :=
  .of_customizations { Customizations.wellTyped_default with users := hu, sshKeys := hk }

theorem accounts_of_validate_qcow2 :
    let b := withAccounts [{ name := ⟨"admin", by decide⟩, uid := .int 1000 }]
      [⟨"admin", "ssh-ed25519 AAAA"⟩, ⟨"root", "ssh-ed25519 BBBB"⟩]
    ∃ t ss, Catalog.Fedora.registry.get "fedora-38" "x86_64" "qcow2" = .ok t ∧ b.WellTyped ∧
      Request.validate .standard t.imageType b {} = .ok [] ∧
      customizationStages b.settings = .ok ss ∧ AllKept b.settings ss := by
  intro b
  obtain ⟨⟨_, _, ⟨d, h₁, h₂, h₃⟩, _⟩, ht, rfl, rfl, hd, -⟩ := Catalog.Fedora.get_qcow2
  obtain rfl : d = Catalog.Fedora.drafts[14] := hd
  have hb : b.WellTyped := wellTyped_withAccounts
    (by simp [Blueprint.User.wellTyped, Value.orNull, Value.isNull, Value.isText, Value.isInteger])
    (by simp [Blueprint.SshKey.wellTyped, Value.isText])
  have hv : Request.validate .standard ⟨Catalog.Fedora.drafts[14], h₁, h₂, h₃⟩ b {} = .ok [] := rfl
  obtain ⟨ss, hss, -, hkept⟩ := accounts_of_validate hb hv
  refine ⟨_, ss, ht, hb, hv, hss, hkept ?_⟩
  constructor <;> simp [b, withAccounts, Blueprint.settings]

/-- Of two users of one name only the last is written. -/
theorem not_allKept_qcow2 :
    let b := withAccounts [{ name := ⟨"admin", by decide⟩, uid := .int 1000 },
      { name := ⟨"admin", by decide⟩, key := "ssh-ed25519 AAAA" }] []
    ∃ t ss, Catalog.Fedora.registry.get "fedora-38" "x86_64" "qcow2" = .ok t ∧
      t.imageType.allowed = none ∧ b.WellTyped ∧
      Request.validate .standard t.imageType b {} = .ok [] ∧
      customizationStages b.settings = .ok ss ∧ ¬ AllKept b.settings ss := by
  intro b
  obtain ⟨⟨_, _, ⟨d, h₁, h₂, h₃⟩, _⟩, ht, rfl, rfl, hd, -⟩ := Catalog.Fedora.get_qcow2
  obtain rfl : d = Catalog.Fedora.drafts[14] := hd
  have hb : b.WellTyped := wellTyped_withAccounts
    (by simp [Blueprint.User.wellTyped, Value.orNull, Value.isNull, Value.isText, Value.isInteger])
    (by simp)
  refine ⟨_, _, ht, rfl, hb, rfl, rfl, fun hkept => ?_⟩
  have huid := (hkept.users _ List.mem_cons_self).2 "uid" (.int 1000) (by simp [User.told])
    (by simp)
  cases huid

end Manifest
end Imagewright
