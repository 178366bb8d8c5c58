import Imagewright.Proofs.Log.Rules
import Imagewright.Proofs.Text.Classes

/-!
# Passwords in addresses

A message may name an address with a user and a password in front of its host. The first rule takes
both of them out, so that the others have nothing of the password to work on.

## Main definitions

* `Password`: a password as an address spells it.
* `Login`: a message with an address in it, apart from its password.
* `Login.message`: the message with a password.

## Main statements

* `apply_addressRule`: what the first rule makes of a message.
* `redact_password`: two passwords lead to the same text in the log.
-/
namespace Imagewright.Log

open Text (Cursor Pattern)

/-! ## Addresses -/

/-- The characters of a user: letters, digits and the marks that need no escape, and the percent
sign of those that do. -/
def isUserChar (c : Char) : Bool :=
  c.isAlphanum ||
    ['-', '.', '_', '~', '!', '$', '&', '\'', '(', ')', '*', '+', ',', ';', '=', '%'].contains c

def isPasswordChar (c : Char) : Bool := isUserChar c || c == ':'

def isSchemeTail (c : Char) : Bool := c.isAlphanum || ['+', '.', '-'].contains c

/-- A letter, then letters, digits and three marks. -/
def isScheme : List Char → Bool
  | [] => false
  | c :: rest => c.isAlpha && rest.all isSchemeTail

/-- A password as an address spells it. -/
structure Password where
  text : String
  nonempty : text ≠ ""
  chars : text.toList.all isPasswordChar = true

/-- A message with an address in it, apart from the password of the address. -/
structure Login where
  before : String
  /-- The address begins the message or follows a space. -/
  apart : before = "" ∨ ∃ text, before = text ++ " "
  scheme : String
  scheme_form : isScheme scheme.toList = true
  user : String
  user_chars : user.toList.all isUserChar = true
  behind : String

/-- The message with a password. -/
def Login.message (l : Login) (p : Password) : String :=
  l.before ++ l.scheme ++ "://" ++ l.user ++ ":" ++ p.text ++ "@" ++ l.behind

/-! ## Classes -/

theorem toNat_lt_of_isAlpha (c : Char) (h : c.isAlpha = true) : c.toNat < 128 :=
  Text.toNat_lt_of_isAlphanum (by rw [Char.isAlphanum, h, Bool.true_or])

theorem toNat_lt_of_marks {marks : List Char} (hmarks : marks.all (·.toNat < 128) = true)
    {c : Char} (h : (c.isAlphanum || marks.contains c) = true) : c.toNat < 128 := by
  rcases Bool.or_eq_true_iff.1 h with h | h
  · exact Text.toNat_lt_of_isAlphanum h
  · exact of_decide_eq_true (List.all_eq_true.1 hmarks c (List.contains_iff_mem.1 h))

theorem toNat_lt_of_isSchemeTail (c : Char) (h : isSchemeTail c = true) : c.toNat < 128 :=
  toNat_lt_of_marks (by decide) h

theorem toNat_lt_of_isUserChar (c : Char) (h : isUserChar c = true) : c.toNat < 128 :=
  toNat_lt_of_marks (by decide) h

theorem toNat_lt_of_isPasswordChar (c : Char) (h : isPasswordChar c = true) : c.toNat < 128 := by
  rcases Bool.or_eq_true_iff.1 h with h | h
  · exact toNat_lt_of_isUserChar c h
  · rw [beq_iff_eq.1 h]
    decide

/-! ## The first rule at an address -/

/-- No match of the first rule takes a space. -/
theorem addressRule_avoids : addressRule.avoids ' ' = true := by decide

/-- The scheme is kept, up to what follows its slashes. -/
theorem ends_kept {scheme : List Char} (hs : isScheme scheme = true) {before : Option Char}
    (hb : before.any Text.isWord = false) (tail : List Char) :
    addressRule.kept.ends ⟨before, scheme ++ ("://".toList ++ tail)⟩ = [⟨some '/', tail⟩] := by
  cases scheme with
  | nil => cases hs
  | cons c cs =>
    obtain ⟨hc, hcs⟩ := Bool.and_eq_true_iff.1 hs
    have hword : Text.isWord c = true := Text.forall_of_ascii toNat_lt_of_isAlpha (by decide) hc
    have hletter : Pattern.anyCase Text.isAsciiLetter c = true :=
      Text.forall_of_ascii toNat_lt_of_isAlpha (by decide) hc
    have hrun : ∀ c ∈ cs, Pattern.anyCase isSchemeChar c = true := fun c hmem =>
      Text.forall_of_ascii toNat_lt_of_isSchemeTail (by decide) (List.all_eq_true.1 hcs c hmem)
    calc addressRule.kept.ends ⟨before, c :: cs ++ ("://".toList ++ tail)⟩
        = (Pattern.seq (.run (Pattern.anyCase isSchemeChar)) (.word "://")).ends
            ⟨some c, cs ++ ("://".toList ++ tail)⟩ := by
          simp [addressRule, Pattern.all, Pattern.ends, Pattern.oneEnd, Text.isBoundary, hb, hword,
            hletter]
      _ = (Pattern.word "://").ends ⟨cs.getLast?.or (some c), "://".toList ++ tail⟩ :=
          Pattern.ends_run_seq hrun (by decide) (Pattern.startsWith_word rfl)
      _ = [⟨some '/', tail⟩] := Pattern.ends_word rfl

/-- What the first rule takes for a user. -/
def isTakenUserChar (c : Char) : Bool := !(c == '/' || Text.isBlank c || c == ':' || c == '@')

/-- What the first rule takes for a password. -/
def isTakenPasswordChar (c : Char) : Bool := !(c == '/' || Text.isBlank c || c == '@')

/-- The user ends at the colon, and the password at the at sign. -/
theorem ends_secret {user password behind : List Char} {before : Option Char} (hu : user ≠ [])
    (huser : user.all isUserChar = true) (hp : password ≠ [])
    (hpassword : password.all isPasswordChar = true) :
    addressRule.secret.ends ⟨before, user ++ ':' :: (password ++ '@' :: behind)⟩ =
      [⟨some '@', behind⟩] := by
  have huser : ∀ c ∈ user, isTakenUserChar c = true := fun c hc =>
    Text.forall_of_ascii toNat_lt_of_isUserChar (by decide +kernel)
      (List.all_eq_true.1 huser c hc)
  have hpassword : ∀ c ∈ password, isTakenPasswordChar c = true := fun c hc =>
    Text.forall_of_ascii toNat_lt_of_isPasswordChar (by decide +kernel)
      (List.all_eq_true.1 hpassword c hc)
  calc addressRule.secret.ends ⟨before, user ++ ':' :: (password ++ '@' :: behind)⟩
      = (Pattern.seq (.word ":") (.seq (.many isTakenPasswordChar) (.word "@"))).ends
          ⟨user.getLast?.or before, ':' :: (password ++ '@' :: behind)⟩ :=
        Pattern.ends_many_seq hu huser rfl (Pattern.startsWith_word rfl).seq
    _ = (Pattern.seq (.many isTakenPasswordChar) (.word "@")).ends
          ⟨some ':', password ++ '@' :: behind⟩ := Pattern.ends_word_seq rfl
    _ = (Pattern.word "@").ends ⟨password.getLast?.or (some ':'), '@' :: behind⟩ :=
        Pattern.ends_many_seq hp hpassword rfl (Pattern.startsWith_word rfl)
    _ = [⟨some '@', behind⟩] := Pattern.ends_word rfl

/-- The user and the password of an address become a mark, and the rule goes on behind them. -/
theorem applyFrom_address {scheme user password : List Char} {before : Option Char}
    (hs : isScheme scheme = true) (hb : before.any Text.isWord = false) (hu : user ≠ [])
    (huser : user.all isUserChar = true) (hp : password ≠ [])
    (hpassword : password.all isPasswordChar = true) (behind : List Char) :
    addressRule.applyFrom 0 before
        (scheme ++ "://".toList ++ (user ++ ':' :: password ++ ['@']) ++ behind) =
      scheme ++ "://".toList ++ "<REDACTED>@".toList ++
        addressRule.applyFrom 0 (some '@') behind := by
  have spelled : user ++ ':' :: password ++ ['@'] ++ behind =
      user ++ ':' :: (password ++ '@' :: behind) := by simp
  have hmatch : addressRule.match?
      ⟨before, scheme ++ "://".toList ++ (user ++ ':' :: password ++ ['@']) ++ behind⟩ =
      some (⟨some '/', user ++ ':' :: password ++ ['@'] ++ behind⟩, ⟨some '@', behind⟩) := by
    rw [Rule.match?, List.append_assoc, List.append_assoc, ends_kept hs hb, spelled,
      List.flatMap_singleton, ends_secret hu huser hp hpassword]
    rfl
  rw [Rule.applyFrom_match (by simp) hmatch, ← List.append_assoc, List.getLast?_concat]
  rfl

/-! ## Messages -/

/-- The first rule leaves nothing of the password. -/
theorem apply_addressRule (l : Login) (p : Password) (hu : l.user ≠ "") :
    addressRule.apply (l.message p).toList =
      addressRule.apply l.before.toList ++ l.scheme.toList ++ "://<REDACTED>@".toList ++
        addressRule.applyFrom 0 (some '@') l.behind.toList := by
  have hu : l.user.toList ≠ [] := by simpa using hu
  have hp : p.text.toList ≠ [] := by simpa using p.nonempty
  have spelled : (l.message p).toList = l.before.toList ++
      (l.scheme.toList ++ "://".toList ++ (l.user.toList ++ ':' :: p.text.toList ++ ['@']) ++
        l.behind.toList) := by
    simp [Login.message]
  have address (before : Option Char) (hb : before.any Text.isWord = false) :=
    applyFrom_address l.scheme_form hb hu l.user_chars hp p.chars l.behind.toList
  rw [Rule.apply, Rule.apply, spelled]
  obtain hbefore | ⟨text, hbefore⟩ := l.apart
  · rw [hbefore, String.toList_empty, List.nil_append, address none rfl]
    simp [Rule.applyFrom]
  · have hspace : (text ++ " ").toList = text.toList ++ [' '] := by simp
    rw [hbefore, hspace, List.append_assoc, List.singleton_append,
      Rule.applyFrom_append addressRule_avoids _ _ (Nat.zero_le _) none, address (some ' ') rfl]
    simp

/-- What is logged of a message does not depend on the password of an address with a user. -/
theorem redact_password (l : Login) (p q : Password) (hu : l.user ≠ "") :
    redact (l.message p) = redact (l.message q) := by
  simp only [redact, rules, List.foldl_cons, apply_addressRule l _ hu]

def mirrorLogin : Login where
  before := "cloning "
  apart := .inr ⟨"cloning", rfl⟩
  scheme := "https"
  scheme_form := by decide
  user := "user"
  user_chars := by decide
  behind := "mirror/repo"

theorem redact_password_mirror :
    mirrorLogin.user ≠ "" ∧
      redact (mirrorLogin.message ⟨"s3cret", by decide, by decide⟩) =
        redact (mirrorLogin.message ⟨"token=a:b", by decide, by decide⟩) :=
  ⟨by decide, redact_password mirrorLogin _ _ (by decide)⟩

/-- Without a user the first rule does not apply, and the password is logged as it is. -/
theorem not_redact_password_without_user :
    ¬∀ (l : Login) (p q : Password), redact (l.message p) = redact (l.message q) := by
  intro h
  have same := h
    { before := "", apart := .inl rfl, scheme := "redis", scheme_form := by decide
      user := "", user_chars := by decide, behind := "cache/0" }
    ⟨"s3cret", by decide, by decide⟩ ⟨"other", by decide, by decide⟩
  revert same
  decide +kernel

end Imagewright.Log
