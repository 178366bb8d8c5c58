import Imagewright.Number.Shortest
import Imagewright.Text.Digits
import Imagewright.Text.Sorted
import Imagewright.Text.Surrogate
import Imagewright.Value.Basic

/-!
# Writing JSON

Values as JSON texts of printable ASCII characters.

## Main definitions

* `Json.isWritable`: the value has a text. Moments have none of their own.
* `Json.quote`: a string between its quotes.
* `Json.compact`: a value on one line, its fields in their order.
* `Json.indented`: a value over several lines, its fields sorted by name.
-/
namespace Imagewright.Json

/-- The escape of a unit of sixteen bits. -/
def escapeUnit (n : Nat) : List Char := '\\' :: 'u' :: Text.hexDigits 4 n

/-- A character as an escape, beyond sixteen bits as two units. -/
def escapeChar (c : Char) : List Char :=
  let n := c.toNat
  match Text.half? c with
  | some unit => escapeUnit unit
  | none =>
    if n < 0x10000 then escapeUnit n
    else
      let m := n - 0x10000
      escapeUnit (0xD800 + m / 0x400) ++ escapeUnit (0xDC00 + m % 0x400)

/-- One character inside a string. Characters outside printable ASCII are escaped. -/
def quoteChar (c : Char) : List Char :=
  match c with
  | '"' => ['\\', '"']
  | '\\' => ['\\', '\\']
  | '\n' => ['\\', 'n']
  | '\r' => ['\\', 'r']
  | '\t' => ['\\', 't']
  | '\x08' => ['\\', 'b']
  | '\x0c' => ['\\', 'f']
  | c => if 0x20 ≤ c.toNat && c.toNat < 0x7F then [c] else escapeChar c

def quote (s : String) : String :=
  String.ofList ('"' :: s.toList.flatMap quoteChar ++ ['"'])

/-- The text of a float, with words for what is no finite number. -/
def floatText : Double → String
  | .nan _ => "NaN"
  | .infinite negative => if negative then "-Infinity" else "Infinity"
  | x => x.text

/-- The text of a value that is no list and no object. -/
def scalarText : Value → String
  | .null => "null"
  | .bool b => if b then "true" else "false"
  | .int n => toString n
  | .float x => floatText x
  | .str s => quote s
  | .moment m => quote m.text
  | .list _ | .obj _ => ""

/-- The name of the field that a value is the key of. Lists and objects are no keys. -/
def keyText? : Value → Option String
  | .str s => some s
  | .list _ | .obj _ => none
  | v => some (scalarText v)

mutual

/-- A value has a text of its own, which moments do not. -/
def isWritable : Value → Bool
  | .moment _ => false
  | .list items => areWritable items
  | .obj fields => haveWritable fields
  | _ => true

def areWritable : List Value → Bool
  | [] => true
  | v :: rest => isWritable v && areWritable rest

def haveWritable : List (String × Value) → Bool
  | [] => true
  | (_, v) :: rest => isWritable v && haveWritable rest

end

mutual

def compact : Value → String
  | .list items => "[" ++ String.intercalate ", " (compactItems items) ++ "]"
  | .obj fields => "\x7b" ++ String.intercalate ", " (compactFields fields) ++ "\x7d"
  | v => scalarText v

def compactItems : List Value → List String
  | [] => []
  | v :: rest => compact v :: compactItems rest

def compactFields : List (String × Value) → List String
  | [] => []
  | (key, v) :: rest => (quote key ++ ": " ++ compact v) :: compactFields rest

end

def lineStart (depth : Nat) : String := "\n" ++ String.ofList (List.replicate (2 * depth) ' ')

/-- Entries between brackets, each on a line of its own. -/
def block (opening closing : String) (depth : Nat) (entries : List String) : String :=
  if entries.isEmpty then opening ++ closing
  else
    let start := lineStart (depth + 1)
    opening ++ start ++ String.intercalate ("," ++ start) entries ++ lineStart depth ++ closing

mutual

/-- A value over several lines, from a line at `depth` on. -/
def indentedAt (depth : Nat) : Value → String
  | .list items => block "[" "]" depth (indentedItems (depth + 1) items)
  | .obj fields =>
    let entries := Text.sortBy (·.1) (indentedFields (depth + 1) fields)
    block "\x7b" "\x7d" depth (entries.map fun e => quote e.1 ++ ": " ++ e.2)
  | v => scalarText v

def indentedItems (depth : Nat) : List Value → List String
  | [] => []
  | v :: rest => indentedAt depth v :: indentedItems depth rest

/-- The names of the fields of an object, and the texts of their values. -/
def indentedFields (depth : Nat) : List (String × Value) → List (String × String)
  | [] => []
  | (key, v) :: rest => (key, indentedAt depth v) :: indentedFields depth rest

end

/-- A value over several lines, its fields sorted by name. -/
def indented (v : Value) : String := indentedAt 0 v

end Imagewright.Json
