import Imagewright.Text.Blank
import Imagewright.Text.Digits
import Imagewright.Text.Pattern

/-!
# Redaction

What is taken out of a message before it is logged: passwords in addresses, keys, password hashes,
tokens, values that are called secret, and mail addresses. The rules are applied one after the
other, each to what the one before has left.

## Main definitions

* `Log.Rule`: what is kept of a match, what is taken out, and the mark in its place.
* `Log.Rule.apply`: a text with every match replaced.
* `Log.rules`: the rules in their order.
* `Log.redact`: a message without secrets.
-/
namespace Imagewright.Log

open Text (Cursor Pattern isAsciiAlnum isAsciiDigit isAsciiLetter isBlank)

/-- A rule: the part of a match that is kept, the part that is taken out, and the mark that stands
in its place. -/
structure Rule where
  kept : Pattern := .nothing
  secret : Pattern
  mark : String

namespace Rule

/-- The preferred match at a place: where its kept part and where all of it ends. -/
def match? (r : Rule) (c : Cursor) : Option (Cursor × Cursor) :=
  ((r.kept.ends c).flatMap fun k => (r.secret.ends k).map (k, ·)).head?

/-- Replaces every match in the rest of a text. `before` is the character in front of the rest, and
the first `skip` characters of it belong to a match that has been replaced. -/
def applyFrom (r : Rule) : (skip : Nat) → (before : Option Char) → List Char → List Char
  | _, _, [] => []
  | skip + 1, _, c :: rest => applyFrom r skip (some c) rest
  | 0, before, c :: rest =>
    match r.match? ⟨before, c :: rest⟩ with
    | none => c :: applyFrom r 0 (some c) rest
    | some (k, e) =>
      (c :: rest).take (rest.length + 1 - k.rest.length) ++ r.mark.toList ++
        applyFrom r (rest.length - e.rest.length) (some c) rest

/-- A text with every match replaced, from left to right. -/
def apply (r : Rule) (cs : List Char) : List Char := r.applyFrom 0 none cs

end Rule

/-! ## The rules -/

def isSchemeChar (c : Char) : Bool :=
  isAsciiAlnum c || c == '+' || c == '.' || c == '-'

/-- The user and the password in an address. The scheme in front of them is kept. -/
def addressRule : Rule where
  kept := .all [
    .boundary, .one (Pattern.anyCase isAsciiLetter), .run (Pattern.anyCase isSchemeChar),
    .word "://"]
  secret := .all [
    .many fun c => !(c == '/' || isBlank c || c == ':' || c == '@'),
    .word ":",
    .many fun c => !(c == '/' || isBlank c || c == '@'),
    .word "@"]
  mark := "<REDACTED>@"

def keyType : Pattern :=
  .either
    (.seq (.word "ssh-") (.first [.word "rsa", .word "dss", .word "ed25519"]))
    (.seq (.word "ecdsa-sha2-nistp") (.many Text.isDigit))

def keyRule : Rule where
  secret := .all [
    .boundary, keyType, .many isBlank,
    .many fun c => isAsciiAlnum c || c == '+' || c == '/' || c == '=']
  mark := "<REDACTED_SSH_KEY>"

def hashScheme : Pattern :=
  .first [
    .word "1", .seq (.word "2") (.optional fun c => c == 'a' || c == 'b' || c == 'y'),
    .word "5", .word "6", .word "y"]

/-- A character that ends neither a hash nor a value. -/
def isValueChar (c : Char) : Bool :=
  !(isBlank c || c == '"' || c == '\'' || c == ',' || c == ';')

def hashRule : Rule where
  secret := .all [.word "$", hashScheme, .word "$", .many isValueChar]
  mark := "<REDACTED_HASH>"

def isTokenChar (c : Char) : Bool := isAsciiAlnum c || c == '_' || c == '-'

/-- A signed token: three segments with points between them. -/
def tokenRule : Rule where
  secret := .all [
    .word "eyJ", .many isTokenChar, .word ".", .many isTokenChar, .word ".", .many isTokenChar]
  mark := "<REDACTED_TOKEN>"

def bearerRule : Rule where
  kept := .seq (.wordAnyCase "bearer") (.many isBlank)
  secret := .many (Pattern.anyCase fun c => isTokenChar c || c == '.')
  mark := "<REDACTED_TOKEN>"

def secretWords : List String :=
  ["password", "passwd", "secret", "api_key", "apikey", "token", "auth_token"]

def secretRule : Rule where
  kept := .all [
    .first (secretWords.map Pattern.wordAnyCase), .run isBlank,
    .one fun c => c == '=' || c == ':', .run isBlank]
  secret := .many isValueChar
  mark := "<REDACTED>"

def isMailboxChar (c : Char) : Bool :=
  isAsciiAlnum c || c == '.' || c == '_' || c == '%' || c == '+' || c == '-'

def mailRule : Rule where
  secret := .all [
    .boundary, .many isMailboxChar, .word "@",
    .many fun c => isAsciiAlnum c || c == '.' || c == '-',
    .word ".", .one isAsciiLetter, .many isAsciiLetter, .boundary]
  mark := "<REDACTED_EMAIL>"

/-- The rules in the order in which they are applied. -/
def rules : List Rule :=
  [addressRule, keyRule, hashRule, tokenRule, bearerRule, secretRule, mailRule]

/-- A message without secrets. -/
def redact (message : String) : String :=
  String.ofList (rules.foldl (fun cs r => r.apply cs) message.toList)

end Imagewright.Log
