import Imagewright.Proofs.Ini.Reading
import Imagewright.Settings

/-!
# When the defaults stand in for a file of settings

A file that is not there, has no sections or says something wrong is replaced by the defaults. What
is not replaced is a file that is no document of settings at all, and one that breaks a reference:
reading such a file is an error to the end.

## Main definitions

* `Settings.Asked`: the options that are read.
* `Settings.Asked.Good`: an option is of use, or is not there.
* `Settings.Breaks`: the first option that is no good has a broken reference.

## Main statements

* `Settings.ofDocument_eq_document_error`: which options make a document fail to the end.
* `Settings.loadOrDefault_outcome`: when the settings of a file, the defaults or an error come out.
-/
namespace Imagewright.Settings

open Outcome (Succeeds bind_eq_error bind_eq_ok pure_eq_ok)

/-- The options that are read. -/
inductive Asked where
  | backend
  | timeout
  | command
  | cacheDir
  | repositoriesDir
deriving DecidableEq

namespace Asked

/-- The options in the order in which they are read. -/
def all : List Asked := [.backend, .timeout, .command, .cacheDir, .repositoriesDir]

def section_ : Asked → String
  | .repositoriesDir => "repositories"
  | _ => "resolver"

def name : Asked → String
  | .backend => "backend"
  | .timeout => "timeout_seconds"
  | .command => "command"
  | .cacheDir => "cache_dir"
  | .repositoriesDir => "config_dir"

/-- The value of an option with its references replaced. -/
def value? (doc : Ini.Document) (o : Asked) : Except Ini.Error (Option String) :=
  doc.value? o.section_ o.name

/-- An option has a value that is of use, or none. -/
def Good (doc : Ini.Document) (o : Asked) : Prop :=
  match o with
  | .backend => ∃ v b, o.value? doc = .ok v ∧ Backend.ofName? (v.getD "memory") = some b
  | .timeout => Succeeds (timeoutOf doc .standard)
  | _ => Succeeds (o.value? doc)

end Asked

/-- The first option that is no good has a broken reference. -/
def Breaks (doc : Ini.Document) (e : Ini.Error) : Prop :=
  ∃ o : Asked, o.value? doc = .error e ∧ ∀ p ∈ Asked.all.takeWhile (· != o), p.Good doc

variable {doc : Ini.Document} {e : Ini.Error}

theorem optionOf_eq_error {section_ name fallback : String} :
    optionOf doc section_ name fallback = .error e ↔ doc.value? section_ name = .error e := by
  unfold optionOf
  cases doc.value? section_ name <;> simp [Except.map]

theorem optionOf_eq_ok {section_ name fallback v : String} :
    optionOf doc section_ name fallback = .ok v ↔
      ∃ o, doc.value? section_ name = .ok o ∧ o.getD fallback = v := by
  unfold optionOf
  cases doc.value? section_ name <;> simp [Except.map]

theorem liftM_document_eq_error {α : Type} {x : Except Ini.Error α} :
    (liftM x : Except LoadError α) = .error (.document e) ↔ x = .error e := by
  cases x <;> simp [liftM, monadLift, MonadLift.monadLift, Except.mapError]

theorem timeoutOf_eq_document_error {fallback : Timeout} :
    timeoutOf doc fallback = .error (.document e) ↔
      doc.value? "resolver" "timeout_seconds" = .error e := by
  unfold timeoutOf
  rw [bind_eq_error, liftM_document_eq_error, or_iff_left]
  rintro ⟨v, -, h⟩
  cases v with
  | none => cases h
  | some numeral =>
    rcases bind_eq_error.1 h with h | ⟨x, -, h⟩
    · obtain ⟨_, -, h⟩ := Outcome.mapError_eq_error.1 h
      cases h
    · obtain ⟨_, -, h⟩ := Outcome.mapError_eq_error.1 h
      cases h

/-- The options one after another. -/
theorem breaks_iff : Breaks doc e ↔
    Asked.backend.value? doc = .error e ∨ Asked.backend.Good doc ∧
      (Asked.timeout.value? doc = .error e ∨ Asked.timeout.Good doc ∧
        (Asked.command.value? doc = .error e ∨ Asked.command.Good doc ∧
          (Asked.cacheDir.value? doc = .error e ∨ Asked.cacheDir.Good doc ∧
            Asked.repositoriesDir.value? doc = .error e))) := by
  have hexists : ∀ P : Asked → Prop, (∃ o, P o) ↔
      P .backend ∨ P .timeout ∨ P .command ∨ P .cacheDir ∨ P .repositoriesDir := by
    intro P
    constructor
    · rintro ⟨o, h⟩
      cases o <;> simp [h]
    · grind
  rw [Breaks, hexists]
  simp only [Asked.all, bne_self_eq_false, Bool.false_eq_true, not_false_eq_true,
    List.takeWhile_cons_of_neg, List.takeWhile_cons_of_pos, List.not_mem_nil, List.mem_cons,
    IsEmpty.forall_iff, implies_true, and_true, bne_iff_ne, ne_eq, reduceCtorEq, or_false,
    forall_eq, forall_eq_or_imp]
  grind

theorem liftM_optionOf_eq_ok {section_ name fallback v : String} :
    (liftM (optionOf doc section_ name fallback) : Except LoadError String) = .ok v ↔
      ∃ o, doc.value? section_ name = .ok o ∧ o.getD fallback = v :=
  Outcome.mapError_eq_ok.trans optionOf_eq_ok

theorem succeeds_liftM_optionOf {section_ name fallback : String} :
    Succeeds (liftM (optionOf doc section_ name fallback) : Except LoadError String) ↔
      Succeeds (doc.value? section_ name) := by
  simp only [Succeeds, liftM_optionOf_eq_ok]
  constructor
  · rintro ⟨_, o, ho, -⟩
    exact ⟨o, ho⟩
  · rintro ⟨o, ho⟩
    exact ⟨_, o, ho, rfl⟩

/-- A document fails to the end exactly if the first option that is no good has a broken
reference. -/
theorem ofDocument_eq_document_error : ofDocument doc = .error (.document e) ↔ Breaks doc e := by
  have hsteps : ∀ {α : Type} {x : Except LoadError α} {P : Prop},
      (∃ a, x = .ok a ∧ P) ↔ Succeeds x ∧ P := exists_and_right
  have hlast : ∀ {s : Settings}, (pure s : Except LoadError Settings) ≠ .error (.document e) :=
    nofun
  -- the options are read in the order of `Asked.all`, and nothing after them fails
  rw [breaks_iff]
  unfold ofDocument
  simp only [bind_eq_error, liftM_document_eq_error, optionOf_eq_error]
  refine or_congr Iff.rfl ⟨?_, ?_⟩
  · rintro ⟨name, hname, h⟩
    obtain ⟨v, hv, rfl⟩ := liftM_optionOf_eq_ok.1 hname
    split at h
    · next b hb =>
      refine ⟨⟨v, b, hv, hb⟩, ?_⟩
      simp only [bind_eq_error, liftM_document_eq_error, optionOf_eq_error,
        timeoutOf_eq_document_error, hsteps, succeeds_liftM_optionOf, hlast, and_false,
        exists_false, or_false] at h
      exact h
    · cases h
  · rintro ⟨⟨v, b, hv, hb⟩, h⟩
    refine ⟨v.getD "memory", liftM_optionOf_eq_ok.2 ⟨v, hv, rfl⟩, ?_⟩
    simp only [hb, bind_eq_error, liftM_document_eq_error, optionOf_eq_error,
      timeoutOf_eq_document_error, hsteps, succeeds_liftM_optionOf, hlast, and_false,
      exists_false, or_false]
    exact h

/-! ## Files -/

variable {path : String} {content : Option String}

/-- Where loading fails to the end. -/
theorem load_eq_document_error : load path content = .error (.document e) ↔
    ∃ text, content = some text ∧
      (Ini.read text = .error e ∨
        ∃ doc, Ini.read text = .ok doc ∧ doc.sections ≠ [] ∧ Breaks doc e) := by
  cases content with
  | none => simp [load, throw, throwThe, MonadExceptOf.throw]
  | some text =>
    simp only [load, bind_eq_error, liftM_document_eq_error, Option.some.injEq, exists_eq_left']
    refine or_congr Iff.rfl ⟨?_, ?_⟩
    · rintro ⟨doc, hdoc, h⟩
      split at h
      · cases h
      · next hsections =>
        refine ⟨doc, Outcome.mapError_eq_ok.1 hdoc, ?_, ofDocument_eq_document_error.1 h⟩
        simpa using hsections
    · rintro ⟨doc, hdoc, hsections, h⟩
      refine ⟨doc, Outcome.mapError_eq_ok.2 hdoc, ?_⟩
      rw [if_neg (by simpa using hsections)]
      exact ofDocument_eq_document_error.2 h

theorem loadOrDefault_eq_error :
    loadOrDefault path content = .error e ↔ load path content = .error (.document e) := by
  unfold loadOrDefault
  split <;> simp_all

theorem loadOrDefault_eq_ok {s : Settings} : loadOrDefault path content = .ok s ↔
    load path content = .ok s ∨
      s = {} ∧ ∃ e, load path content = .error e ∧ e.message?.isSome := by
  unfold loadOrDefault
  split
  · simp_all
  · simp_all [LoadError.message?]
  · next e hne h =>
    have hmessage : e.message?.isSome := by
      cases e with
      | document d => exact absurd rfl (hne d)
      | _ => rfl
    simp only [h, Except.ok.injEq, reduceCtorEq, false_or, Except.error.injEq]
    exact ⟨fun hs => ⟨hs.symm, e, rfl, hmessage⟩, fun hs => hs.1.symm⟩

/-- In a document without references no option is broken. -/
theorem not_breaks_of_plainValues (h : doc.PlainValues) : ¬ Breaks doc e := by
  rintro ⟨o, ho, -⟩
  rw [Asked.value?, h.value?] at ho
  cases ho

/-- The settings of a file come out, or the defaults in place of a file whose fault has a message.
A file that is no document, and one with a broken reference, is an error to the end. So without
references only a text that cannot be read is one, for example one that does not start with a
header. -/
theorem loadOrDefault_outcome (path : String) (content : Option String) :
    (∀ s, loadOrDefault path content = .ok s ↔ load path content = .ok s ∨
      s = {} ∧ ∃ e, load path content = .error e ∧ e.message?.isSome) ∧
    (∀ e, loadOrDefault path content = .error e ↔ ∃ text, content = some text ∧
      (Ini.read text = .error e ∨
        ∃ doc, Ini.read text = .ok doc ∧ doc.sections ≠ [] ∧ Breaks doc e)) ∧
    (∀ text, content = some text → Ini.Plain text →
      (Succeeds (loadOrDefault path content) ↔ Succeeds (Ini.read text))) ∧
    (∀ text line, content = some text → Ini.firstLine? text = some line →
      Ini.header? (Text.trim line) = none →
      loadOrDefault path content = .error .missingHeader) := by
  have herror : ∀ e, loadOrDefault path content = .error e ↔ ∃ text, content = some text ∧
      (Ini.read text = .error e ∨
        ∃ doc, Ini.read text = .ok doc ∧ doc.sections ≠ [] ∧ Breaks doc e) :=
    fun e => loadOrDefault_eq_error.trans load_eq_document_error
  refine ⟨fun s => loadOrDefault_eq_ok, herror, ?_, ?_⟩
  · rintro text rfl hplain
    rw [← not_iff_not, Outcome.not_succeeds, Outcome.not_succeeds]
    refine exists_congr fun e => ?_
    rw [herror]
    constructor
    · rintro ⟨_, heq, h⟩
      obtain rfl := Option.some.inj heq
      obtain h | ⟨doc, hdoc, -, hbreaks⟩ := h
      · exact h
      · exact absurd hbreaks (not_breaks_of_plainValues (Ini.plainValues_read hplain hdoc))
    · exact fun h => ⟨text, rfl, .inl h⟩
  · rintro text line rfl hline hheader
    exact (herror _).2 ⟨text, rfl, .inl (Ini.read_eq_missingHeader.2 ⟨line, hline, hheader⟩)⟩

/-- An unknown way of resolving is replaced by the defaults, an option in front of the first header
is not. -/
theorem loadOrDefault_outcome_unknown_backend :
    (Ini.Plain "[resolver]\nbackend = yum\n" ∧
      Succeeds (loadOrDefault "settings.conf" (some "[resolver]\nbackend = yum\n"))) ∧
    Ini.firstLine? "backend = yum\n" = some "backend = yum".toList ∧
      loadOrDefault "settings.conf" (some "backend = yum\n") = .error .missingHeader := by
  have hplain : Ini.Plain "[resolver]\nbackend = yum\n" := by simp [Ini.Plain]
  have hread : Succeeds (Ini.read "[resolver]\nbackend = yum\n") := ⟨_, rfl⟩
  have hline : Ini.firstLine? "backend = yum\n" = some "backend = yum".toList := by decide
  obtain ⟨-, -, hreads, -⟩ :=
    loadOrDefault_outcome "settings.conf" (some "[resolver]\nbackend = yum\n")
  obtain ⟨-, -, -, hmissing⟩ := loadOrDefault_outcome "settings.conf" (some "backend = yum\n")
  exact ⟨⟨hplain, (hreads _ rfl hplain).2 hread⟩, hline, hmissing _ _ rfl hline (by decide)⟩

/-- An option in front of the first header, and a reference that is none. -/
theorem loadOrDefault_fails :
    loadOrDefault "settings.conf" (some "backend = memory\n") = .error .missingHeader ∧
      loadOrDefault "settings.conf" (some "[resolver]\ncache_dir = %x\n") =
        .error .malformedReference := by
  decide

end Imagewright.Settings
