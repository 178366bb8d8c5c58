import Imagewright.Blueprint.Document
import Imagewright.Json.Reader
import Imagewright.Toml.Moments
import Imagewright.Toml.Tables

/-!
# Reading TOML

A reader for TOML documents.

## Main definitions

* `Toml.read?`: the object that a document denotes.
* `Toml.reader`: the reader that blueprints are read with.
-/
namespace Imagewright.Toml

/-- A character that may not stand in a string or a comment. -/
def isControl (c : Char) : Bool := (c.toNat < 0x20 && c != '\t') || c.toNat == 0x7F

/-- A character of a key without quotes. -/
def isBare (c : Char) : Bool := Text.isAsciiAlnum c || c == '_' || c == '-'

/-- A text from its first character on that is no space and no tab. -/
def skipBlank (cs : List Char) : List Char := cs.dropWhile fun c => c == ' ' || c == '\t'

/-- Skips blanks, line ends and comments. -/
def skipGap (inComment : Bool) : List Char → Option (List Char)
  | [] => some []
  | '\r' :: '\n' :: rest => skipGap false rest
  | c :: rest =>
    if c == '\n' then skipGap false rest
    else if inComment then if isControl c then none else skipGap true rest
    else if c == ' ' || c == '\t' then skipGap false rest
    else if c == '#' then skipGap true rest
    else some (c :: rest)

/-- Skips blanks and a comment up to the end of the line, which must come. -/
def endLine (inComment : Bool) : List Char → Option (List Char)
  | [] => some []
  | '\r' :: '\n' :: rest => some rest
  | c :: rest =>
    if c == '\n' then some rest
    else if inComment then if isControl c then none else endLine true rest
    else if c == ' ' || c == '\t' then endLine false rest
    else if c == '#' then endLine true rest
    else none

/-- The character of a code point given by hexadecimal digits. -/
def codePoint? (digits : List Char) : Option Char := do
  let n ← digits.foldlM (fun n c => (Text.hexValue? c).map (n * 16 + ·)) 0
  if n.isValidChar then some (Char.ofNat n) else none

/-- The character that an escape of one letter stands for. -/
def escape? (c : Char) : Option Char := if c == '/' then none else Json.simpleEscape? c

/-- The rest of a string on one line after its opening quote, and what follows it. -/
def readBasic (out : List Char) : List Char → Option (String × List Char)
  | [] => none
  | '\\' :: 'u' :: a :: b :: c :: d :: rest => do
    let char ← codePoint? [a, b, c, d]
    readBasic (char :: out) rest
  | '\\' :: 'U' :: a :: b :: c :: d :: e :: f :: g :: h :: rest => do
    let char ← codePoint? [a, b, c, d, e, f, g, h]
    readBasic (char :: out) rest
  | '\\' :: c :: rest => do
    let char ← escape? c
    readBasic (char :: out) rest
  | c :: rest =>
    if c == '"' then some (String.ofList out.reverse, rest)
    else if c == '\\' || isControl c then none
    else readBasic (c :: out) rest

/-- The rest of a literal string on one line after its opening quote, and what follows it. -/
def readLiteral (out : List Char) : List Char → Option (String × List Char)
  | [] => none
  | c :: rest =>
    if c == '\'' then some (String.ofList out.reverse, rest)
    else if isControl c then none
    else readLiteral (c :: out) rest

/-- A text without a line end in front. -/
def dropLineEnd : List Char → List Char
  | '\n' :: rest => rest
  | '\r' :: '\n' :: rest => rest
  | rest => rest

/-- The rest of a string over several lines after its opening quotes, and what follows it.
`skipping` tells that blanks and line ends are left out, after a backslash at the end of a line. Up
to two quotes may stand before the closing ones. -/
def readLongBasic (out : List Char) (skipping : Bool) : List Char → Option (String × List Char)
  | [] => none
  | '"' :: '"' :: '"' :: '"' :: '"' :: rest =>
    some (String.ofList ('"' :: '"' :: out).reverse, rest)
  | '"' :: '"' :: '"' :: '"' :: rest => some (String.ofList ('"' :: out).reverse, rest)
  | '"' :: '"' :: '"' :: rest => some (String.ofList out.reverse, rest)
  | '\\' :: 'u' :: a :: b :: c :: d :: rest => do
    let char ← codePoint? [a, b, c, d]
    readLongBasic (char :: out) false rest
  | '\\' :: 'U' :: a :: b :: c :: d :: e :: f :: g :: h :: rest => do
    let char ← codePoint? [a, b, c, d, e, f, g, h]
    readLongBasic (char :: out) false rest
  | '\\' :: c :: rest =>
    match escape? c with
    | some char => readLongBasic (char :: out) false rest
    | none =>
      let line := (c :: rest).dropWhile fun c => c == ' ' || c == '\t' || c == '\r'
      if line.head? == some '\n' then readLongBasic out true rest else none
  | c :: rest =>
    if skipping && (c == ' ' || c == '\t' || c == '\r' || c == '\n') then
      readLongBasic out true rest
    else if c == '\\' || (isControl c && c != '\n' && c != '\r') then none
    else readLongBasic (c :: out) false rest

/-- The rest of a literal string over several lines after its opening quotes, and what follows
it. -/
def readLongLiteral (out : List Char) : List Char → Option (String × List Char)
  | [] => none
  | '\'' :: '\'' :: '\'' :: '\'' :: '\'' :: rest =>
    some (String.ofList ('\'' :: '\'' :: out).reverse, rest)
  | '\'' :: '\'' :: '\'' :: '\'' :: rest => some (String.ofList ('\'' :: out).reverse, rest)
  | '\'' :: '\'' :: '\'' :: rest => some (String.ofList out.reverse, rest)
  | c :: rest =>
    if isControl c && c != '\n' && c != '\r' then none else readLongLiteral (c :: out) rest

/-- One part of a key, and what follows it. -/
def readPart : List Char → Option (String × List Char)
  | '"' :: rest => readBasic [] rest
  | '\'' :: rest => readLiteral [] rest
  | cs =>
    let part := cs.takeWhile isBare
    if part.isEmpty then none else some (String.ofList part, cs.dropWhile isBare)

/-- The parts of a key, and what follows them. -/
def readKey : (fuel : Nat) → List Char → Option (List String × List Char)
  | 0, _ => none
  | fuel + 1, cs => do
    let (part, rest) ← readPart (skipBlank cs)
    match skipBlank rest with
    | '.' :: rest =>
      let (parts, rest) ← readKey fuel rest
      return (part :: parts, rest)
    | rest => return ([part], rest)

/-- The characters that numbers and words consist of. -/
def isScalar (c : Char) : Bool := isBare c || c == '+' || c == '.'

/-- The number of digits of a base, with single underscores between them. -/
def basedDigits? (base : Nat) (cs : List Char) : Option Nat := do
  let digits ← go false cs
  digits.foldlM (fun n c => (Text.hexValue? c).bind fun d =>
    if d < base then some (n * base + d) else none) 0
where
  /-- The digits without underscores, each of which stands between two of them. -/
  go (afterDigit : Bool) : List Char → Option (List Char)
    | [] => if afterDigit then some [] else none
    | c :: rest =>
      if c == '_' then if afterDigit then go false rest else none
      else (go true rest).map (c :: ·)

def decimal? (cs : List Char) : Option Value := do
  let (negative, digits) := Text.takeSign cs
  let digits ← Text.dropUnderscores? false digits
  match ← (Json.readDigits negative digits).toOption with
  | (v, []) => some v
  | _ => none

/-- The value of a number or a word. What is no number comes from a place of the document. -/
def scalar? (place : Nat) (cs : List Char) : Option Value :=
  match cs with
  | '0' :: 'x' :: digits => (basedDigits? 16 digits).map fun n => .int n
  | '0' :: 'o' :: digits => (basedDigits? 8 digits).map fun n => .int n
  | '0' :: 'b' :: digits => (basedDigits? 2 digits).map fun n => .int n
  | cs =>
    let word := String.ofList cs
    if word == "true" then some (.bool true)
    else if word == "false" then some (.bool false)
    else if word == "inf" || word == "+inf" then some (.float (.infinite false))
    else if word == "-inf" then some (.float (.infinite true))
    else if word == "nan" || word == "+nan" || word == "-nan" then some (.float (.nan place))
    else decimal? cs

/-- A moment, a number or a word, and what follows it. The place of a value is how much of the
document is left where it starts. -/
def readPlain (cs : List Char) : Option (Value × List Char) :=
  match readMoment cs with
  | some found => found.map fun r => (.moment r.1, r.2)
  | none => (scalar? cs.length (cs.takeWhile isScalar)).map fun v => (v, cs.dropWhile isScalar)

mutual

/-- A value, and what follows it. -/
def readValue : (fuel : Nat) → List Char → Option (Value × List Char)
  | 0, _ => none
  | fuel + 1, cs =>
    match cs with
    | '"' :: '"' :: '"' :: rest =>
      (readLongBasic [] false (dropLineEnd rest)).map fun r => (.str r.1, r.2)
    | '\'' :: '\'' :: '\'' :: rest =>
      (readLongLiteral [] (dropLineEnd rest)).map fun r => (.str r.1, r.2)
    | '"' :: rest => (readBasic [] rest).map fun r => (.str r.1, r.2)
    | '\'' :: rest => (readLiteral [] rest).map fun r => (.str r.1, r.2)
    | '[' :: rest => (readItems fuel [] rest).map fun r => (.list r.1, r.2)
    | '{' :: rest =>
      match skipBlank rest with
      | '}' :: rest => some (.obj [], rest)
      | rest => (readInline fuel [] rest).map fun r => (.obj (entryValues r.1), r.2)
    | cs => readPlain cs

/-- The items of an array up to its end, after those in `out`, which are reversed. -/
def readItems : (fuel : Nat) → (out : List Value) → List Char → Option (List Value × List Char)
  | 0, _, _ => none
  | fuel + 1, out, cs => do
    match ← skipGap false cs with
    | ']' :: rest => some (out.reverse, rest)
    | cs =>
      let (v, rest) ← readValue fuel cs
      match ← skipGap false rest with
      | ',' :: rest => readItems fuel (v :: out) rest
      | ']' :: rest => some ((v :: out).reverse, rest)
      | _ => none

/-- The keys of a table on one line up to its end, after those in `out`. -/
def readInline : (fuel : Nat) → (out : Entries) → List Char → Option (Entries × List Char)
  | 0, _, _ => none
  | fuel + 1, out, cs => do
    let (key, rest) ← readKey fuel cs
    match rest with
    | '=' :: rest =>
      let (v, rest) ← readValue fuel (skipBlank rest)
      let out ← setDotted key v out
      match skipBlank rest with
      | ',' :: rest => readInline fuel out rest
      | '}' :: rest => some (out, rest)
      | _ => none
    | _ => none

end

/-- A document under construction and the path of its last header. -/
structure Document where
  entries : Entries
  current : List String

/-- Reads one header or key, and gives what follows its line. -/
def readLine (fuel : Nat) (doc : Document) : List Char → Option (Document × List Char)
  | '[' :: '[' :: rest => do
    let (path, rest) ← readKey fuel rest
    match rest with
    | ']' :: ']' :: rest =>
      let entries ← appendTable path doc.entries
      return (⟨entries, path⟩, ← endLine false rest)
    | _ => none
  | '[' :: rest => do
    let (path, rest) ← readKey fuel rest
    match rest with
    | ']' :: rest =>
      let entries ← openTable path doc.entries
      return (⟨entries, path⟩, ← endLine false rest)
    | _ => none
  | cs => do
    let (key, rest) ← readKey fuel cs
    match rest with
    | '=' :: rest =>
      let (v, rest) ← readValue fuel (skipBlank rest)
      let entries ← setKey doc.current key v doc.entries
      return (⟨entries, doc.current⟩, ← endLine false rest)
    | _ => none

def readLines : (fuel : Nat) → Document → List Char → Option Document
  | 0, _, _ => none
  | fuel + 1, doc, cs => do
    match ← skipGap false cs with
    | [] => return doc
    | cs =>
      let (doc, rest) ← readLine (2 * cs.length + 2) doc cs
      readLines fuel doc rest

/-- A text with a line feed alone where a carriage return stands in front of it. -/
def plainLineEnds : List Char → List Char
  | '\r' :: '\n' :: rest => '\n' :: plainLineEnds rest
  | c :: rest => c :: plainLineEnds rest
  | [] => []

def read? (s : String) : Option Value := do
  let cs := plainLineEnds s.toList
  let doc ← readLines (cs.length + 1) ⟨[], []⟩ cs
  return .obj (entryValues doc.entries)

/-- The reader that blueprints are read with. It never breaks. -/
def reader : Blueprint.TomlReader := fun s =>
  match read? s with
  | some v => .ok v
  | none => .error .malformed

end Imagewright.Toml
