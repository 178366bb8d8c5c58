import Imagewright.Assoc
import Imagewright.Value.Basic

/-!
# Tables of a TOML document

A document grows key by key. Each table remembers how it came about, which decides what may still be
added to it.

## Main definitions

* `Toml.Node`: a value, a table or an array of tables.
* `Toml.openTable`, `Toml.appendTable`, `Toml.setKey`: what headers and keys do to a document.
* `Toml.Node.toValue`: the finished document.
-/
namespace Imagewright.Toml

/-- How a table came about. -/
inductive Origin where
  /-- On the way to a table with a header. -/
  | implied
  /-- By a header of its own. -/
  | header
  /-- By a key of several parts. -/
  | dotted
deriving DecidableEq, Repr

/-- A part of a document under construction. -/
inductive Node where
  | value (v : Value)
  | table (origin : Origin) (entries : List (String × Node))
  | tables (items : List (List (String × Node)))
deriving Inhabited

abbrev Entries := Assoc String Node

/-- Changes the last one of an array of tables. -/
def changeLast (change : Entries → Option Entries) : List Entries → Option (List Entries)
  | [] => none
  | [last] => (change last).map fun last => [last]
  | first :: rest => (changeLast change rest).map (first :: ·)

/-- Changes the table at the end of a path of headers. Tables on the way come about if they are not
there; of an array of tables the last one is on the way. -/
def changeTable (change : Entries → Option Entries) (path : List String) (entries : Entries) :
    Option Entries :=
  match path with
  | [] => change entries
  | key :: rest =>
    match Assoc.get? entries key with
    | none =>
      (changeTable change rest []).map fun inner => Assoc.set entries key (.table .implied inner)
    | some (.table origin inner) =>
      (changeTable change rest inner).map fun inner => Assoc.set entries key (.table origin inner)
    | some (.tables items) =>
      (changeLast (changeTable change rest) items).map fun items =>
        Assoc.set entries key (.tables items)
    | some (.value _) => none

/-- Changes the last entry of a path of headers. -/
def changeEntry (change : Option Node → Option Node) (path : List String) (entries : Entries) :
    Option Entries :=
  match path.getLast? with
  | none => none
  | some key =>
    changeTable (fun inner => (change (Assoc.get? inner key)).map (Assoc.set inner key ·))
      path.dropLast entries

/-- Opens the table of a header. A table has one header. -/
def openTable (path : List String) (entries : Entries) : Option Entries :=
  changeEntry (fun node => match node with
    | none => some (.table .header [])
    | some (.table .implied inner) => some (.table .header inner)
    | some _ => none) path entries

def appendTable (path : List String) (entries : Entries) : Option Entries :=
  changeEntry (fun node => match node with
    | none => some (.tables [[]])
    | some (.tables items) => some (.tables (items ++ [[]]))
    | some _ => none) path entries

/-- Sets a key of one or more parts in a table. The key must be new, and its parts lead through
tables that such keys brought about. -/
def setDotted (path : List String) (v : Value) (entries : Entries) : Option Entries :=
  match path with
  | [] => none
  | [key] => if entries.any (·.1 == key) then none else some (entries ++ [(key, .value v)])
  | key :: rest =>
    match Assoc.get? entries key with
    | none => (setDotted rest v []).map fun inner => Assoc.set entries key (.table .dotted inner)
    | some (.table .dotted inner) =>
      (setDotted rest v inner).map fun inner => Assoc.set entries key (.table .dotted inner)
    | some _ => none

/-- Sets a key in the table that the last header opened. -/
def setKey (current path : List String) (v : Value) (entries : Entries) : Option Entries :=
  changeTable (setDotted path v) current entries

mutual

def Node.toValue : Node → Value
  | .value v => v
  | .table _ entries => .obj (entryValues entries)
  | .tables items => .list (tableValues items)

def entryValues : List (String × Node) → List (String × Value)
  | [] => []
  | (key, node) :: rest => (key, node.toValue) :: entryValues rest

def tableValues : List (List (String × Node)) → List Value
  | [] => []
  | entries :: rest => .obj (entryValues entries) :: tableValues rest

end

end Imagewright.Toml
