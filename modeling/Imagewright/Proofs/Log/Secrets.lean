import Imagewright.Proofs.Log.Rewriting
import Imagewright.Proofs.Text.Classes

/-!
# Keys, hashes and tokens

Three kinds of secrets are told by their form alone. The rule of each leaves none of its kind, and
the rules behind it make no new ones: what they take out is neither at the edge of a secret nor in
the middle of one. So none is in a message that is logged.

## Main definitions

* `Secret`, `Secret.Is`: the kinds, and the texts that are of them.
* `Secret.In`: a text holds a secret of a kind.
* `Rule.Tidy`: what a rule owes for its marks not to make secrets of what is around them.

## Main statements

* `Rule.Tidy.exists_secret`: a secret in what a rule leaves is one that the rule has found no match
  at.
* `Secret.not_in_redact`: a logged message holds no secret.
-/
namespace Imagewright.Log

open Text (Cursor Pattern isAsciiLetter isBlank isWord)
open Text.Pattern (takes_many takes_many_iff takes_seq takes_word takes_word_iff)

/-! ## Secrets -/

/-- The kinds of secrets that are told by their form. -/
inductive Secret where
  /-- A public key. -/
  | key
  /-- The hash of a password. -/
  | hash
  /-- A signed token. -/
  | token

def isKeyChar (c : Char) : Bool := Text.isAsciiAlnum c || c == '+' || c == '/' || c == '='

/-- The types of keys. -/
inductive IsKeyType : List Char → Prop where
  | named {s : String} (h : s ∈ ["ssh-rsa", "ssh-dss", "ssh-ed25519"]) : IsKeyType s.toList
  | curve {size : List Char} (hne : size ≠ []) (h : ∀ c ∈ size, Text.isDigit c = true) :
    IsKeyType ("ecdsa-sha2-nistp".toList ++ size)

/-- The ways of hashing that have a sign. -/
def hashSigns : List String := ["1", "2", "2a", "2b", "2y", "5", "6", "y"]

namespace Secret

/-- The rule that takes the secrets of a kind out. -/
def rule : Secret → Rule
  | key => keyRule
  | hash => hashRule
  | token => tokenRule

theorem kept_rule (s : Secret) : s.rule.kept = .nothing := by
  cases s <;> rfl

/-- A text is a secret of a kind where it stands behind a character. -/
inductive Is : Secret → (before : Option Char) → List Char → Prop where
  | key {before : Option Char} {type blanks body : List Char} (apart : before.any isWord = false)
    (type_form : IsKeyType type) (hblanks : blanks ≠ [])
    (blanks_form : ∀ c ∈ blanks, isBlank c = true) (hbody : body ≠ [])
    (body_form : ∀ c ∈ body, isKeyChar c = true) : Is key before (type ++ (blanks ++ body))
  | hash {before : Option Char} {sign : String} {c : Char} (hsign : sign ∈ hashSigns)
    (hc : isValueChar c = true) : Is hash before ('$' :: (sign.toList ++ ['$', c]))
  | token {before : Option Char} {head body signature : List Char} (hhead : head ≠ [])
    (head_form : ∀ c ∈ head, isTokenChar c = true) (hbody : body ≠ [])
    (body_form : ∀ c ∈ body, isTokenChar c = true) (hsignature : signature ≠ [])
    (signature_form : ∀ c ∈ signature, isTokenChar c = true) :
    Is token before ("eyJ".toList ++ (head ++ '.' :: (body ++ '.' :: signature)))

/-- A text holds a secret of a kind. -/
def In (s : Secret) (cs : List Char) : Prop :=
  ∃ front xs back, cs = front ++ (xs ++ back) ∧ s.Is front.getLast? xs

end Secret

/-! ## The rule of a kind -/

/-- The characters that secrets begin with. -/
def firstChars : List Char := ['s', 'e', '$']

/-- A key begins with a letter. -/
theorem IsKeyType.exists_cons {type : List Char} (h : IsKeyType type) :
    ∃ c ∈ firstChars, isAsciiLetter c = true ∧ ∃ rest, type = c :: rest := by
  cases h with
  | named h =>
    simp only [List.mem_cons, List.not_mem_nil, or_false] at h
    refine ⟨'s', by decide, by decide, ?_⟩
    rcases h with rfl | rfl | rfl <;> exact ⟨_, rfl⟩
  | curve => exact ⟨'e', by decide, by decide, _, rfl⟩

theorem takes_keyType {type after : List Char} {before : Option Char} (h : IsKeyType type) :
    keyType.Takes before type after := by
  cases h with
  | named h =>
    refine .inl ?_
    simp only [List.mem_cons, List.not_mem_nil, or_false] at h
    rcases h with rfl | rfl | rfl
    · exact takes_seq (takes_word "ssh-") (.inl (takes_word "rsa"))
    · exact takes_seq (takes_word "ssh-") (.inr (.inl (takes_word "dss")))
    · exact takes_seq (takes_word "ssh-") (.inr (.inr (takes_word "ed25519")))
  | curve hne h => exact .inr (takes_seq (takes_word _) (takes_many hne h))

theorem takes_hashScheme {sign : String} {after : List Char} {before : Option Char}
    (h : sign ∈ hashSigns) : hashScheme.Takes before sign.toList after := by
  simp only [hashSigns, List.mem_cons, List.not_mem_nil, or_false] at h
  rcases h with rfl | rfl | rfl | rfl | rfl | rfl | rfl | rfl
  · exact .inl (takes_word "1")
  · exact .inr (.inl (takes_seq (takes_word "2") (.inr rfl)))
  · exact .inr (.inl (takes_seq (takes_word "2") (.inl ⟨'a', rfl, rfl⟩)))
  · exact .inr (.inl (takes_seq (takes_word "2") (.inl ⟨'b', rfl, rfl⟩)))
  · exact .inr (.inl (takes_seq (takes_word "2") (.inl ⟨'y', rfl, rfl⟩)))
  · exact .inr (.inr (.inl (takes_word "5")))
  · exact .inr (.inr (.inr (.inl (takes_word "6"))))
  · exact .inr (.inr (.inr (.inr (takes_word "y"))))

/-! ## Marks -/

/-- No mark begins in a run of a class that has no character for it. -/
theorem notMem_of_class {p : Char → Bool} {xs : List Char} (h : ∀ c ∈ xs, p c = true)
    (hp : p '<' = false) : '<' ∉ xs := by
  intro hmem
  rw [h _ hmem] at hp
  cases hp

theorem IsKeyType.notMem {type : List Char} (h : IsKeyType type) : '<' ∉ type := by
  cases h with
  | named h =>
    simp only [List.mem_cons, List.not_mem_nil, or_false] at h
    rcases h with rfl | rfl | rfl <;> decide
  | curve _ h =>
    rw [List.mem_append, not_or]
    exact ⟨by decide, notMem_of_class h (by decide)⟩

theorem notMem_hash {sign : String} (h : sign ∈ hashSigns) :
    '<' ∉ '$' :: (sign.toList ++ ['$']) := by
  simp only [hashSigns, List.mem_cons, List.not_mem_nil, or_false] at h
  rcases h with rfl | rfl | rfl | rfl | rfl | rfl | rfl | rfl <;> decide

theorem isKeyType_of_takes {type after : List Char} {before : Option Char}
    (h : keyType.Takes before type after) : IsKeyType type := by
  rcases h with ⟨_, _, rfl, hssh, hname⟩ | ⟨_, _, rfl, hname, hsize⟩
  · rw [takes_word_iff.1 hssh]
    rcases hname with h | h | h <;> rw [takes_word_iff.1 h]
    · exact .named (s := "ssh-rsa") (by simp)
    · exact .named (s := "ssh-dss") (by simp)
    · exact .named (s := "ssh-ed25519") (by simp)
  · rw [takes_word_iff.1 hname]
    obtain ⟨hne, h⟩ := takes_many_iff.1 hsize
    exact .curve hne h

theorem exists_hashSign {sign after : List Char} {before : Option Char}
    (h : hashScheme.Takes before sign after) : ∃ s ∈ hashSigns, sign = s.toList := by
  rcases h with h | ⟨_, _, rfl, htwo, hletter⟩ | h | h | h
  · exact ⟨"1", by simp [hashSigns], takes_word_iff.1 h⟩
  · rw [takes_word_iff.1 htwo]
    rcases hletter with ⟨c, rfl, hc⟩ | rfl
    · simp only [Bool.or_eq_true, beq_iff_eq] at hc
      rcases hc with (rfl | rfl) | rfl
      · exact ⟨"2a", by simp [hashSigns], rfl⟩
      · exact ⟨"2b", by simp [hashSigns], rfl⟩
      · exact ⟨"2y", by simp [hashSigns], rfl⟩
    · exact ⟨"2", by simp [hashSigns], rfl⟩
  · exact ⟨"5", by simp [hashSigns], takes_word_iff.1 h⟩
  · exact ⟨"6", by simp [hashSigns], takes_word_iff.1 h⟩
  · exact ⟨"y", by simp [hashSigns], takes_word_iff.1 h⟩

namespace Secret

variable {s : Secret} {before : Option Char} {xs after : List Char}

/-- The rule of a kind takes its secrets wherever they stand. -/
theorem Is.takes (h : s.Is before xs) : s.rule.secret.Takes before xs after := by
  cases h with
  | key apart type_form hblanks blanks_form hbody body_form =>
    obtain ⟨c, -, hc, rest, rfl⟩ := type_form.exists_cons
    refine ⟨[], _, rfl, ⟨rfl, ?_⟩, ?_⟩
    · simp [Text.isBoundary, apart, Text.isWord_of_isAsciiLetter hc]
    · exact takes_seq (takes_keyType type_form)
        (takes_seq (takes_many hblanks blanks_form) (takes_many hbody body_form))
  | hash hsign hc =>
    exact takes_seq (takes_word "$") (takes_seq (takes_hashScheme hsign)
      (takes_seq (takes_word "$") (takes_many (by simp) (by simpa using hc))))
  | token hhead head_form hbody body_form hsignature signature_form =>
    exact takes_seq (takes_word "eyJ") (takes_seq (takes_many hhead head_form)
      (takes_seq (takes_word ".") (takes_seq (takes_many hbody body_form)
        (takes_seq (takes_word ".") (takes_many hsignature signature_form)))))

/-- What the rule of a kind takes begins with a secret of the kind. -/
theorem exists_is_of_takes (h : s.rule.secret.Takes before xs after) :
    ∃ ys zs, xs = ys ++ zs ∧ s.Is before ys := by
  cases s with
  | key =>
    obtain ⟨_, _, rfl, ⟨rfl, hboundary⟩, type, _, rfl, htype, blanks, body, rfl, hblanks, hbody⟩ :=
      h
    have type_form := isKeyType_of_takes htype
    obtain ⟨hblanks, blanks_form⟩ := takes_many_iff.1 hblanks
    obtain ⟨hbody, body_form⟩ := takes_many_iff.1 hbody
    refine ⟨type ++ (blanks ++ body), [], by simp,
      .key ?_ type_form hblanks blanks_form hbody body_form⟩
    obtain ⟨c, -, hc, rest, rfl⟩ := type_form.exists_cons
    simpa [Text.isBoundary, Text.isWord_of_isAsciiLetter hc] using hboundary
  | hash =>
    obtain ⟨_, _, rfl, hdollar, _, _, rfl, hsign, _, _, rfl, hdollar', hrest⟩ := h
    obtain ⟨sign, hmem, rfl⟩ := exists_hashSign hsign
    obtain ⟨hne, hchars⟩ := takes_many_iff.1 hrest
    obtain ⟨c, rest, rfl⟩ := List.exists_cons_of_ne_nil hne
    refine ⟨_, rest, ?_, .hash hmem (hchars c List.mem_cons_self)⟩
    rw [takes_word_iff.1 hdollar, takes_word_iff.1 hdollar']
    simp
  | token =>
    obtain ⟨_, _, rfl, hfirst, head, _, rfl, hhead, _, _, rfl, hpoint, body, _, rfl, hbody, _,
      signature, rfl, hpoint', hsignature⟩ := h
    obtain ⟨hhead, head_form⟩ := takes_many_iff.1 hhead
    obtain ⟨hbody, body_form⟩ := takes_many_iff.1 hbody
    obtain ⟨hsignature, signature_form⟩ := takes_many_iff.1 hsignature
    refine ⟨_, [], ?_, .token hhead head_form hbody body_form hsignature signature_form⟩
    rw [takes_word_iff.1 hfirst, takes_word_iff.1 hpoint, takes_word_iff.1 hpoint']
    simp

/-- A text holds a secret exactly where the rule of its kind finds a match. -/
theorem in_iff {cs : List Char} :
    s.In cs ↔ ∃ front back, cs = front ++ back ∧ s.rule.match? ⟨front.getLast?, back⟩ ≠ none := by
  constructor
  · rintro ⟨front, xs, back, rfl, his⟩
    exact ⟨front, xs ++ back, rfl, fun h =>
      Rule.not_takes_of_match?_eq_none s.kept_rule h his.takes⟩
  · rintro ⟨front, back, rfl, h⟩
    obtain ⟨⟨k, e⟩, hmatch⟩ := Option.ne_none_iff_exists'.1 h
    obtain rfl : k = ⟨front.getLast?, back⟩ := by
      simpa [s.kept_rule, Pattern.ends] using (Rule.of_match? hmatch).1
    obtain ⟨_, hback, -, htakes⟩ := Rule.Replaces.exists_taken ⟨_, hmatch⟩
    obtain ⟨ys, zs, rfl, his⟩ := exists_is_of_takes htakes
    refine ⟨front, ys, zs ++ e.rest, ?_, his⟩
    rw [← List.append_assoc ys, ← hback]

end Secret

/-! ## Classes -/

theorem toNat_lt_of_isAsciiLetter (c : Char) (h : isAsciiLetter c = true) : c.toNat < 128 := by
  rw [Text.isAsciiLetter_iff] at h
  omega

theorem toNat_lt_of_isAsciiAlnum {c : Char} (h : Text.isAsciiAlnum c = true) : c.toNat < 128 :=
  Text.toNat_lt_of_isAlphanum (by rwa [← Text.isAsciiAlnum_eq])

theorem toNat_lt_of_isTokenChar (c : Char) (h : isTokenChar c = true) : c.toNat < 128 := by
  simp only [isTokenChar, Bool.or_eq_true, beq_iff_eq] at h
  obtain (h | rfl) | rfl := h
  · exact toNat_lt_of_isAsciiAlnum h
  all_goals decide

theorem toNat_lt_of_isMailboxChar (c : Char) (h : isMailboxChar c = true) : c.toNat < 128 := by
  simp only [isMailboxChar, Bool.or_eq_true, beq_iff_eq] at h
  obtain ((((h | rfl) | rfl) | rfl) | rfl) | rfl := h
  · exact toNat_lt_of_isAsciiAlnum h
  all_goals decide

/-- The characters of what a bearer shows. -/
def isBearerChar (c : Char) : Bool := isTokenChar c || c == '.'

/-- The characters that are not ASCII and stand for letters that are. -/
def lookalikes : List Char := ['\u0130', '\u0131', '\u017f', '\u212a']

theorem eq_ofNat_of_toNat {c : Char} {n : Nat} (h : c.toNat = n) : c = Char.ofNat n := by
  rw [← h, Char.ofNat_toNat]

theorem toNat_lt_or_mem_lookalikes {c : Char} (h : (Pattern.plainLetter c).toNat < 128) :
    c.toNat < 128 ∨ c ∈ lookalikes := by
  unfold Pattern.plainLetter at h
  split_ifs at h with hupper hi hs hk
  · have hle : c.toNat ≤ 'Z'.toNat := (Bool.and_eq_true_iff.1 hupper).2 |> of_decide_eq_true
    have hz : 'Z'.toNat = 90 := rfl
    omega
  · simp only [Bool.or_eq_true, beq_iff_eq] at hi
    rcases hi with hi | hi <;> rw [eq_ofNat_of_toNat hi] <;> decide
  · rw [eq_ofNat_of_toNat (beq_iff_eq.1 hs)]
    decide
  · rw [eq_ofNat_of_toNat (beq_iff_eq.1 hk)]
    decide
  · exact .inl h

theorem isValueChar_of_isBearerChar (c : Char) (h : Pattern.anyCase isBearerChar c = true) :
    isValueChar c = true := by
  have hplain : (Pattern.plainLetter c).toNat < 128 := by
    rcases Bool.or_eq_true_iff.1 h with h | h
    · exact toNat_lt_of_isTokenChar _ h
    · rw [beq_iff_eq.1 h]
      decide
  rcases toNat_lt_or_mem_lookalikes hplain with hc | hc
  · exact Text.forall_of_ascii
      (p := fun c => decide (c.toNat < 128) && Pattern.anyCase isBearerChar c)
      (fun _ h => of_decide_eq_true (Bool.and_eq_true_iff.1 h).1) (by decide +kernel)
      (Bool.and_eq_true_iff.2 ⟨decide_eq_true hc, h⟩)
  · exact Text.forall_mem_of_all (P := fun c => isValueChar c = true) (by decide) c hc

/-! ## Rules that make no secrets -/

/-- What a rule owes for its marks not to make secrets of what is around them: no secret begins in
a mark, what is taken out begins with a character that a hash could have, and no letter follows it.
-/
structure Rule.Tidy (r : Rule) : Prop where
  marked : ∃ m, r.mark.toList = '<' :: m
  apart : ∀ c ∈ firstChars, c ∉ r.mark.toList
  begins : r.secret.Begins isValueChar
  stops : ∀ k e, r.Replaces k e → ∀ c ∈ e.rest.head?, isAsciiLetter c = false

/-- A rule that takes all letters there are leaves none behind. -/
theorem Rule.stops_of_endsInRun {r : Rule} {p : Char → Bool} (hr : r.secret.EndsInRun p)
    (hp : ∀ c, isAsciiLetter c = true → p c = true) {k e : Cursor} (h : r.Replaces k e) :
    ∀ c ∈ e.rest.head?, isAsciiLetter c = false := by
  intro c hc
  have hstop := Pattern.stops_of_endsInRun hr h.head?_ends c hc
  rw [← Bool.not_eq_true] at hstop ⊢
  exact mt (hp c) hstop

theorem tidy_keyRule : keyRule.Tidy where
  marked := ⟨_, rfl⟩
  apart := Text.forall_mem_of_all (by decide)
  begins := Pattern.begins_boundary_seq ((Pattern.begins_either
    ((Pattern.begins_word rfl (by decide)).seq _)
    ((Pattern.begins_word rfl (by decide)).seq _)).seq _)
  stops _ _ := Rule.stops_of_endsInRun (r := keyRule) (p := isKeyChar) rfl fun _ hc => by
    simp [isKeyChar, Text.isAsciiAlnum, hc]

theorem tidy_hashRule : hashRule.Tidy where
  marked := ⟨_, rfl⟩
  apart := Text.forall_mem_of_all (by decide)
  begins := (Pattern.begins_word rfl (by decide)).seq _
  stops _ _ := Rule.stops_of_endsInRun (r := hashRule) (p := isValueChar) rfl fun _ hc =>
    Text.forall_of_ascii toNat_lt_of_isAsciiLetter (by decide +kernel) hc

theorem tidy_tokenRule : tokenRule.Tidy where
  marked := ⟨_, rfl⟩
  apart := Text.forall_mem_of_all (by decide)
  begins := (Pattern.begins_word rfl (by decide)).seq _
  stops _ _ := Rule.stops_of_endsInRun (r := tokenRule) (p := isTokenChar) rfl fun _ hc => by
    simp [isTokenChar, Text.isAsciiAlnum, hc]

theorem tidy_bearerRule : bearerRule.Tidy where
  marked := ⟨_, rfl⟩
  apart := Text.forall_mem_of_all (by decide)
  begins := (Pattern.begins_one isValueChar_of_isBearerChar).seq _
  stops _ _ := Rule.stops_of_endsInRun (r := bearerRule) (p := Pattern.anyCase isBearerChar) rfl
    fun _ hc => Text.forall_of_ascii toNat_lt_of_isAsciiLetter (by decide +kernel) hc

theorem tidy_secretRule : secretRule.Tidy where
  marked := ⟨_, rfl⟩
  apart := Text.forall_mem_of_all (by decide)
  begins := (Pattern.begins_one fun _ h => h).seq _
  stops _ _ := Rule.stops_of_endsInRun (r := secretRule) (p := isValueChar) rfl fun _ hc =>
    Text.forall_of_ascii toNat_lt_of_isAsciiLetter (by decide +kernel) hc

/-- The domain of a mail address ends with a letter, and not in the middle of a word. -/
theorem stops_mailRule {k e : Cursor} (h : mailRule.Replaces k e) :
    ∀ c ∈ e.rest.head?, isAsciiLetter c = false := by
  intro c hc
  obtain ⟨_, -, -, _, _, rfl, -, _, _, rfl, -, _, _, rfl, -, _, _, rfl, -, _, _, rfl, -,
    _, _, rfl, -, letters, _, rfl, hletters, rfl, hboundary⟩ := h.exists_taken
  obtain ⟨d, hd, hletter⟩ := Pattern.getLast?_of_takes_many hletters
  have hword : e.rest.head?.any isWord = false := by
    simpa [Text.isBoundary, hd, Text.isWord_of_isAsciiLetter hletter] using hboundary
  rw [Option.mem_def.1 hc, Option.any_some] at hword
  rw [← Bool.not_eq_true] at hword ⊢
  exact mt Text.isWord_of_isAsciiLetter hword

theorem tidy_mailRule : mailRule.Tidy where
  marked := ⟨_, rfl⟩
  apart := Text.forall_mem_of_all (by decide)
  begins := Pattern.begins_boundary_seq (((Pattern.begins_one fun _ hc =>
    Text.forall_of_ascii toNat_lt_of_isMailboxChar (by decide +kernel) hc).seq _).seq _)
  stops _ _ := stops_mailRule

/-- The rules behind the first one are tidy. -/
theorem tidy_of_mem {r : Rule} (h : r ∈ rules.tail) : r.Tidy := by
  simp only [rules, List.tail_cons, List.mem_cons, List.not_mem_nil, or_false] at h
  rcases h with rfl | rfl | rfl | rfl | rfl | rfl
  · exact tidy_keyRule
  · exact tidy_hashRule
  · exact tidy_tokenRule
  · exact tidy_bearerRule
  · exact tidy_secretRule
  · exact tidy_mailRule

/-! ## Messages -/

namespace Rule.Tidy

variable {r : Rule} {s : Secret} {cs : List Char}

theorem takesSome (hr : r.Tidy) : r.TakesSome := by
  intro before xs after h
  obtain ⟨c, rest, rfl, -⟩ := hr.begins h
  simp

/-- Where a character of a hash was, there is one in the text as well. -/
theorem exists_valueChar (hr : r.Tidy) {c : Char} {ys ys' : List Char}
    (h : r.Follows ys' (c :: ys)) (hc : isValueChar c = true) :
    ∃ d rest, ys' = d :: rest ∧ isValueChar d = true := by
  rcases h with hsame | ⟨k, e, hke, rfl⟩
  · obtain ⟨rest, rfl⟩ := List.head?_eq_some_iff.1 hsame
    exact ⟨c, rest, rfl, hc⟩
  · obtain ⟨found, hfound, -, htakes⟩ := hke.exists_taken
    obtain ⟨d, rest, rfl, hd⟩ := hr.begins htakes
    exact ⟨d, rest ++ e.rest, hfound, hd⟩

/-- A secret in what a rule leaves is a secret of the text, at which the rule has found no match
unless it keeps a part of its matches. -/
theorem exists_secret (hr : r.Tidy) (h : s.In (r.apply cs)) :
    ∃ front xs back, cs = front ++ (xs ++ back) ∧ s.Is front.getLast? xs ∧
      (r.kept = .nothing → r.match? ⟨front.getLast?, xs ++ back⟩ = none) := by
  obtain ⟨front, xs, back, hout, his⟩ := h
  obtain ⟨m, hmark⟩ := hr.marked
  have hgo := rewrites_applyFrom hr.takesSome none cs
  cases his with
  | @key _ type blanks body apart type_form hblanks blanks_form hbody body_form =>
    have hnot : '<' ∉ type ++ (blanks ++ body) := by
      simp only [List.mem_append, not_or]
      exact ⟨type_form.notMem, notMem_of_class blanks_form (by decide),
        notMem_of_class body_form (by decide)⟩
    obtain ⟨c, hfirst, hletter, rest, rfl⟩ := type_form.exists_cons
    obtain ⟨front', back', rfl, -, -, hbefore, hmatch⟩ :=
      hgo.exists_stretch hmark (hr.apart c hfirst) hnot hout
    rw [Option.or_none] at hbefore hmatch
    refine ⟨front', _, back', rfl, .key ?_ type_form hblanks blanks_form hbody body_form, hmatch⟩
    rcases hbefore with hsame | ⟨k, e, hke, he⟩
    · rwa [hsame, Option.or_none]
    · -- A key begins with a letter, and no letter follows what was taken out.
      have hstop := hr.stops k e hke c (by rw [he]; rfl)
      rw [hletter] at hstop
      cases hstop
  | @hash _ sign c hsign hc =>
    have hnot : '<' ∉ '$' :: (sign.toList ++ ['$']) := notMem_hash hsign
    rw [show '$' :: (sign.toList ++ ['$', c]) ++ back = '$' :: (sign.toList ++ ['$']) ++ (c :: back)
      by simp] at hout
    obtain ⟨front', ys, rfl, hfollows, -, -, hmatch⟩ :=
      hgo.exists_stretch hmark (hr.apart '$' (by decide)) hnot hout
    obtain ⟨d, back', rfl, hd⟩ := hr.exists_valueChar hfollows hc
    refine ⟨front', '$' :: (sign.toList ++ ['$', d]), back', by simp, .hash hsign hd, ?_⟩
    simpa using hmatch
  | @token _ head body signature hhead head_form hbody body_form hsignature signature_form =>
    have hnot : '<' ∉ "eyJ".toList ++ (head ++ '.' :: (body ++ '.' :: signature)) := by
      simp only [List.mem_append, List.mem_cons, not_or]
      exact ⟨by decide, notMem_of_class head_form (by decide), by decide,
        notMem_of_class body_form (by decide), by decide,
        notMem_of_class signature_form (by decide)⟩
    obtain ⟨front', back', rfl, -, -, -, hmatch⟩ :=
      hgo.exists_stretch hmark (hr.apart 'e' (by decide)) hnot hout
    rw [Option.or_none] at hmatch
    exact ⟨front', _, back', rfl,
      .token hhead head_form hbody body_form hsignature signature_form, hmatch⟩

/-- A tidy rule makes no secrets. -/
theorem of_apply (hr : r.Tidy) (h : s.In (r.apply cs)) : s.In cs := by
  obtain ⟨front, xs, back, hcs, his, -⟩ := hr.exists_secret h
  exact ⟨front, xs, back, hcs, his⟩

/-- Tidy rules one after the other make no secrets. -/
theorem of_foldl {rs : List Rule} (hrs : ∀ r ∈ rs, r.Tidy)
    (h : s.In (rs.foldl (fun cs r => r.apply cs) cs)) : s.In cs := by
  induction rs generalizing cs with
  | nil => exact h
  | cons r rs ih =>
    obtain ⟨hr, hrest⟩ := List.forall_mem_cons.1 hrs
    exact hr.of_apply (ih hrest h)

end Rule.Tidy

namespace Secret

variable {s : Secret}

theorem tidy_rule (s : Secret) : s.rule.Tidy := by
  cases s with
  | key => exact tidy_keyRule
  | hash => exact tidy_hashRule
  | token => exact tidy_tokenRule

/-- The rule of a kind leaves no secret of it. -/
theorem not_in_apply (s : Secret) (cs : List Char) : ¬s.In (s.rule.apply cs) := by
  intro h
  obtain ⟨front, xs, back, -, his, hmatch⟩ := s.tidy_rule.exists_secret h
  exact Rule.not_takes_of_match?_eq_none s.kept_rule (hmatch s.kept_rule) his.takes

theorem exists_rules (s : Secret) : ∃ front back, rules = front ++ s.rule :: back := by
  cases s with
  | key => exact ⟨[addressRule], _, rfl⟩
  | hash => exact ⟨[addressRule, keyRule], _, rfl⟩
  | token => exact ⟨[addressRule, keyRule, hashRule], _, rfl⟩

theorem tidy_behind {front back : List Rule} (h : rules = front ++ s.rule :: back) :
    ∀ r ∈ back, r.Tidy := by
  intro r hr
  apply tidy_of_mem
  rw [h]
  cases front with
  | nil => exact hr
  | cons => exact List.mem_append_right _ (List.mem_cons_of_mem _ hr)

/-- The rules behind the one of a kind keep a message free of its secrets. -/
theorem not_in_rules (s : Secret) (message : String) : ¬s.In (redact message).toList := by
  obtain ⟨front, back, h⟩ := s.exists_rules
  rw [redact, String.toList_ofList, h, List.foldl_append, List.foldl_cons]
  exact fun hin => s.not_in_apply _ (Rule.Tidy.of_foldl (tidy_behind h) hin)

/-- No secret is in a message that is logged, and the rule of its kind finds no match in it. Each
rule leaves no secret of its kind, and those behind it make none of what had none. -/
theorem not_in_redact (s : Secret) :
    (∀ message, ¬s.In (redact message).toList ∧
      ∀ front back, (redact message).toList = front ++ back →
        s.rule.match? ⟨front.getLast?, back⟩ = none) ∧
    (∀ cs, ¬s.In (s.rule.apply cs)) ∧
    (∀ front back, rules = front ++ s.rule :: back →
      ∀ r ∈ back, ∀ cs, s.In (r.apply cs) → s.In cs) := by
  refine ⟨fun message => ⟨s.not_in_rules message, fun front back h => ?_⟩, s.not_in_apply,
    fun front back h r hr cs => (tidy_behind h r hr).of_apply⟩
  by_contra hmatch
  exact s.not_in_rules message (in_iff.2 ⟨front, back, h, hmatch⟩)

/-- A mail address behind a hash is taken out after the hash is. -/
theorem not_in_redact_hash :
    hash.In "$6$abc a@b.cd".toList ∧
      rules = [addressRule, keyRule] ++ hash.rule ::
        [tokenRule, bearerRule, secretRule, mailRule] ∧
      hash.In (mailRule.apply "$6$abc a@b.cd".toList) ∧
      hash.rule.match? ⟨none, (redact "$6$abc a@b.cd").toList⟩ = none := by
  have his : hash.Is none ('$' :: ("6".toList ++ ['$', 'a'])) := .hash (by decide) (by decide)
  have hin : hash.In (mailRule.apply "$6$abc a@b.cd".toList) :=
    ⟨[], _, "bc <REDACTED_EMAIL>".toList, by decide +kernel, his⟩
  refine ⟨(not_in_redact hash).2.2 [addressRule, keyRule] _ rfl mailRule (by simp) _ hin, rfl, hin,
    ?_⟩
  exact ((not_in_redact hash).1 "$6$abc a@b.cd").2 [] _ rfl

end Secret

end Imagewright.Log
