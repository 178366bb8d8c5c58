import Imagewright.Text.Layout
import Imagewright.Text.Quoted

/-!
# Templates

Texts with fields in braces. Two braces of a kind stand for one. A field names a value and may go on
with attributes and indices; after an exclamation mark stands a conversion, and after a colon a
layout, which may hold fields of its own.

## Main definitions

* `Text.Subject`: what a field stands for.
* `Text.Field`: a field of a template.
* `Text.nextSegment`: what stands at the start of a template, and what follows it.
* `Text.fillTemplate`: a template with its fields replaced by their values.
-/
namespace Imagewright.Text

/-- Why a template cannot be filled. -/
inductive TemplateError where
  | unknownField (name : String)
  | positionalField (index : Nat)
  | loneOpening
  | loneClosing
  | openingInField
  | unclosedField
  | noConversion
  | unknownConversion (c : Char)
  | noColon
  | unclosedLayout
  | tooManyDigits
  | emptyAttribute
  | unclosedIndex
  | strayAfterIndex
  | indexOutOfRange
  /-- A value has no such attribute or index. -/
  | wrongType
  | nestedTooDeep
  | layout (e : Layout.Error)
deriving DecidableEq, Repr

/-- The text of an error; of an unknown field its name. -/
def TemplateError.message : TemplateError → String
  | .unknownField name => name
  | .positionalField index =>
    s!"Replacement index {index} out of range for positional args tuple"
  | .loneOpening => "Single '\x7b' encountered in format string"
  | .loneClosing => "Single '\x7d' encountered in format string"
  | .openingInField => "unexpected '\x7b' in field name"
  | .unclosedField => "expected '\x7d' before end of string"
  | .noConversion => "end of string while looking for conversion specifier"
  | .unknownConversion c =>
    "Unknown conversion specifier " ++ (if c.toNat == 127 then "\\x7f" else Layout.showMark c)
  | .noColon => "expected ':' after conversion specifier"
  | .unclosedLayout => "unmatched '\x7b' in format spec"
  | .tooManyDigits => "Too many decimal digits in format string"
  | .emptyAttribute => "Empty attribute in format string"
  | .unclosedIndex => "Missing ']' in format string"
  | .strayAfterIndex => "Only '.' or '[' may follow ']' in format field specifier"
  | .indexOutOfRange => "string index out of range"
  | .wrongType => "<type error>"
  | .nestedTooDeep => "Max string recursion exceeded"
  | .layout e => e.message

/-! ## Segments -/

/-- A field of a template, as it is written. -/
structure Field where
  /-- The value that is meant, with its attributes and indices. -/
  path : List Char
  conversion : Option Char := none
  layout : List Char := []
deriving DecidableEq, Repr

/-- What stands at the start of a template: characters for themselves, and the field after them. -/
structure Segment where
  literal : List Char
  field : Option Field := none
deriving DecidableEq, Repr

/-- The path of a field up to the mark that ends it, the mark, and what follows. Between brackets no
mark ends it. -/
def takePath (inBrackets : Bool) : List Char → Except TemplateError (List Char × Char × List Char)
  | [] => .error .unclosedField
  | c :: rest =>
    if inBrackets then do
      let (path, mark, rest) ← takePath (c != ']') rest
      return (c :: path, mark, rest)
    else if c == '{' then .error .openingInField
    else if c == '}' || c == ':' || c == '!' then .ok ([], c, rest)
    else do
      let (path, mark, rest) ← takePath (c == '[') rest
      return (c :: path, mark, rest)

/-- A layout up to the brace that closes its field, and what follows. `depth` braces are open inside
it. -/
def takeLayout (depth : Nat) : List Char → Except TemplateError (List Char × List Char)
  | [] => .error .unclosedLayout
  | c :: rest =>
    if c == '}' && depth == 0 then .ok ([], rest)
    else do
      let depth := if c == '{' then depth + 1 else if c == '}' then depth - 1 else depth
      let (layout, rest) ← takeLayout depth rest
      return (c :: layout, rest)

/-- A conversion, and then a layout if a colon follows. -/
def takeConversion (path : List Char) : List Char → Except TemplateError (Field × List Char)
  | [] => .error .noConversion
  | [_] => .error .unclosedLayout
  | c :: mark :: rest =>
    if mark == '}' then .ok ({ path, conversion := some c }, rest)
    else if mark == ':' then do
      let (layout, rest) ← takeLayout 0 rest
      return ({ path, conversion := some c, layout }, rest)
    else .error .noColon

/-- A field after its opening brace, and what follows its closing one. -/
def takeField (cs : List Char) : Except TemplateError (Field × List Char) := do
  let (path, mark, rest) ← takePath false cs
  if mark == '}' then return ({ path }, rest)
  else if mark == '!' then takeConversion path rest
  else
    let (layout, rest) ← takeLayout 0 rest
    return ({ path, layout }, rest)

def isBrace (c : Char) : Bool := c == '{' || c == '}'

/-- What stands at the start of a template, and what follows it. -/
def nextSegment (cs : List Char) : Except TemplateError (Segment × List Char) :=
  let literal := cs.takeWhile (!isBrace ·)
  match cs.dropWhile (!isBrace ·) with
  | [] => .ok (⟨literal, none⟩, [])
  | '{' :: '{' :: rest => .ok (⟨literal ++ ['{'], none⟩, rest)
  | '}' :: '}' :: rest => .ok (⟨literal ++ ['}'], none⟩, rest)
  | ['{'] => .error .loneOpening
  | '{' :: rest => do
    let (field, rest) ← takeField rest
    return (⟨literal, some field⟩, rest)
  | _ => .error .loneClosing

/-! ## Values -/

/-- What a field stands for. -/
inductive Subject where
  | text (cs : List Char)
  /-- The type of a value, by its name. -/
  | type (name : String)
deriving DecidableEq, Repr

namespace Subject

def shown : Subject → List Char
  | text cs => cs
  | type name => s!"<class '{name}'>".toList

/-- The characters that show a subject, between quotes if it is a text. -/
def quoted : Subject → List Char
  | text cs => (quote (String.ofList cs)).toList
  | s => s.shown

/-- An attribute of a subject. Few are told. -/
def member (s : Subject) (name : String) : Except TemplateError Subject :=
  match s, name with
  | text _, "__class__" => .ok (type "str")
  | type _, "__class__" => .ok (type "type")
  | type n, "__name__" | type n, "__qualname__" => .ok (text n.toList)
  | type _, "__module__" => .ok (text "builtins".toList)
  | _, _ => .error .wrongType

def item (s : Subject) (index : Option Nat) : Except TemplateError Subject :=
  match s, index with
  | text cs, some i =>
    match cs[i]? with
    | some c => .ok (text [c])
    | none => .error .indexOutOfRange
  | _, _ => .error .wrongType

/-- A subject after a conversion. -/
def convert (s : Subject) (conversion : Char) : Except TemplateError Subject :=
  match conversion with
  | '\x00' => .ok s
  | 's' => .ok (text s.shown)
  | 'r' => .ok (text s.quoted)
  | 'a' => .ok (text (s.quoted.flatMap fun c =>
    if c.toNat < 0x80 then [c] else escapeCodePoint ((half? c).getD c.toNat)))
  | c => .error (.unknownConversion c)

/-- A subject, laid out. Only texts can be. -/
def layOut (s : Subject) (layout : List Char) : Except TemplateError (List Char) :=
  match s with
  | text cs => (Layout.apply layout cs).mapError .layout
  | s => if layout.isEmpty then .ok s.shown else .error .wrongType

end Subject

/-- The number that a part of a path is, none if it is not made of digits. -/
def indexOf (part : List Char) : Except TemplateError (Option Nat) := do
  let (n, rest) ← (Layout.takeNumber none part).mapError fun _ => .tooManyDigits
  return if rest.isEmpty then n else none

def endsName (c : Char) : Bool := c == '.' || c == '['

/-- One attribute or index of a path, applied to a subject, and what follows it. -/
def nextStep (s : Subject) : List Char → Except TemplateError (Subject × List Char)
  | '.' :: rest => do
    let name := rest.takeWhile (!endsName ·)
    if name.isEmpty then throw .emptyAttribute
    return (← s.member (String.ofList name), rest.dropWhile (!endsName ·))
  | '[' :: rest => do
    let name := rest.takeWhile (· != ']')
    if name.length == rest.length then throw .unclosedIndex
    let index ← indexOf name
    if name.isEmpty then throw .emptyAttribute
    return (← s.item index, (rest.dropWhile (· != ']')).drop 1)
  | _ => .error .strayAfterIndex

/-- The subject at the end of a path. The fuel bounds the number of steps. -/
def followPath : (fuel : Nat) → Subject → List Char → Except TemplateError Subject
  | 0, s, _ => .ok s
  | fuel + 1, s, path =>
    if path.isEmpty then .ok s
    else do
      let (s, rest) ← nextStep s path
      followPath fuel s rest

/-- The subject of a path. A path that starts with digits only, or with nothing, asks for a value by
position, and there are none. -/
def subjectOf (values : List (String × String)) (path : List Char) :
    Except TemplateError Subject := do
  let first := path.takeWhile (!endsName ·)
  let name := String.ofList first
  match ← indexOf first, values.lookup name with
  | some index, _ => throw (.positionalField index)
  | none, some value => followPath path.length (.text value.toList) (path.drop first.length)
  | none, none => throw (if first.isEmpty then .positionalField 0 else .unknownField name)

/-! ## Filling -/

/-- A field replaced by its value. A layout with braces is a template, which `expand` fills. -/
def fillField (values : List (String × String))
    (expand : List Char → Except TemplateError (List Char)) (f : Field) :
    Except TemplateError (List Char) := do
  let s ← subjectOf values f.path
  let s ← match f.conversion with
    | some c => s.convert c
    | none => pure s
  let layout ← if f.layout.contains '{' then expand f.layout else pure f.layout
  s.layOut layout

/-- Fills the segments of a template. The fuel bounds their number. -/
def fillSegments (values : List (String × String))
    (expand : List Char → Except TemplateError (List Char)) :
    (fuel : Nat) → List Char → Except TemplateError (List Char)
  | 0, _ => .ok []
  | fuel + 1, cs =>
    if cs.isEmpty then .ok []
    else do
      let (segment, rest) ← nextSegment cs
      let value ← match segment.field with
        | some f => fillField values expand f
        | none => pure []
      let filled ← fillSegments values expand fuel rest
      return segment.literal ++ value ++ filled

/-- Fills a template whose layouts hold templates up to a depth. -/
def fillNested (values : List (String × String)) :
    (depth : Nat) → List Char → Except TemplateError (List Char)
  | 0, _ => .error .nestedTooDeep
  | depth + 1, cs => fillSegments values (fillNested values depth) cs.length cs

/-- A template with its fields replaced by their values. The layouts in it may hold fields, but not
those of layouts in them. -/
def fillTemplate (values : List (String × String)) (template : String) :
    Except TemplateError String :=
  (fillNested values 2 template.toList).map String.ofList

end Imagewright.Text
