import BootClock.Keyed
import BootClock.Mismatch
import BootClock.Saturating
import BootClock.Toml.Key
/-!
# Values and tables of a document

A table keeps its keys in the order they came. How it came about decides what may still be added to
it: a table that a header opened is open to headers only, one that a dotted key made is open to
dotted keys and to headers of tables inside it, and an inline table is closed.

Three operations build a document: `Table.insert` for a key with its value, `Table.openTable` for
`[a.b]` and `Table.appendTable` for `[[a.b]]`. Each follows a path (`Table.alter`) and changes the
table at its end.
-/

namespace BootClock.Toml

/-- How a table came about. -/
inductive Origin where
  /-- A header opened it; also the root, and the elements of an array of tables. -/
  | header
  /-- A header of a table inside it implied it. -/
  | implied
  /-- A dotted key made it. -/
  | dotted
  /-- It is written in braces. -/
  | inlined
  deriving DecidableEq, Repr

inductive Value where
  | text (s : String)
  | integer (n : Int64)
  | float (x : Binary64)
  | boolean (b : Bool)
  /-- A date, a time or both. -/
  | moment
  | array (items : List Value)
  /-- The tables that `[[…]]` headers opened under one name. -/
  | tables (items : List (List (String × Value)))
  | table (origin : Origin) (entries : List (String × Value))

/-- Keys with their values, in the order they came. -/
abbrev Table := Keyed Value

namespace Value

/-- What a reader that wants something else finds. -/
def found : Value → Found
  | text s => .text s
  | integer n => .integer n.toInt
  | float x => .float x
  | boolean b => .boolean b
  | moment => .map
  | array _ => .sequence
  | tables _ => .sequence
  | table .. => .map

/-- The name of the value's kind. -/
def kind : Value → String
  | text _ => "string"
  | integer _ => "integer"
  | float _ => "float"
  | boolean _ => "boolean"
  | moment => "datetime"
  | array _ => "array"
  | tables _ => "array of tables"
  | table .. => "table"

end Value

namespace Table

/-- What leads into a table: a header, or the dots of a key. -/
inductive Way where
  | header
  | dots
  deriving DecidableEq, Repr

namespace Way

/-- Origin of the tables that are made on the way. -/
def makes : Way → Origin
  | header => .implied
  | dots => .dotted

/-- A table that came about so may be entered. -/
def enters : Way → Origin → Bool
  | header, o => o != .inlined
  | dots, o => o == .implied || o == .dotted

end Way

/-- Changes the table at the end of a path with `f`, which is told the origin of that table. Tables
that are missing on the way are made; of an array of tables the last one is entered. -/
def alter (way : Way) (f : Origin → Table → Option Table) :
    List String → Origin → Table → Option Table
  | [], origin, t => f origin t
  | key :: path, _, t =>
    match t.get? key with
    | none => do return t.set key (.table way.makes (← alter way f path way.makes []))
    | some (.table origin inner) =>
      if way.enters origin then do
        return t.set key (.table origin (← alter way f path origin inner))
      else none
    | some (.tables items) => do
      let last ← items.getLast?
      return t.set key (.tables (items.dropLast ++ [← alter way f path .header last]))
    | some _ => none

/-- Adds a key with its value. The key must be new, and the table it goes to must have been made by
dotted keys exactly if the key is dotted. -/
def insert (origin : Origin) (t : Table) (key : Key) (v : Value) : Option Table :=
  alter .dots (fun origin t =>
    if (origin == .dotted) = key.path.isEmpty ∨ (t.get? key.name).isSome then none
    else some (t.set key.name v)) key.path origin t

/-- Opens a table under a header. One that was only implied so far keeps what it holds and moves to
the end of the table around it. -/
def openTable (t : Table) (key : Key) : Option Table :=
  alter .header (fun _ t => match t.get? key.name with
    | none => some (t.set key.name (.table .header []))
    | some (.table .implied inner) =>
      some ((t.erase key.name).set key.name (.table .header inner))
    | some _ => none) key.path .header t

/-- Opens one more table of an array of tables. -/
def appendTable (t : Table) (key : Key) : Option Table :=
  alter .header (fun _ t => match t.get? key.name with
    | none => some (t.set key.name (.tables [[]]))
    | some (.tables items) => some (t.set key.name (.tables (items ++ [[]])))
    | some _ => none) key.path .header t

/-- The table that keys with their values make. -/
def ofEntries? (origin : Origin) (entries : List (Key × Value)) : Option Table :=
  entries.foldlM (fun t e => insert origin t e.1 e.2) []

end Table

end BootClock.Toml
