import BootClock.Toml.Value
/-!
# Documents

A document is a list of lines that hold a key with its value, the header of a table, the header of
a table in an array, or nothing (`statements?`). The lines build up the table that the document
stands for (`Table.ofStatements?`); a text that breaks a rule of either part is no document.
-/

namespace BootClock.Toml

inductive Statement where
  | entry (key : Key) (v : Value)
  /-- `[key]` -/
  | header (key : Key)
  /-- `[[key]]` -/
  | element (key : Key)

/-- The statement that a line starts with, and the text after it on the line. -/
def statement? (limits : Limits) : List Char → Option (Statement × List Char)
  | '[' :: '[' :: s => do
    let (key, s) ← key? limits.names s
    return (.element key, ← after? ']' (← after? ']' s))
  | '[' :: s => do
    let (key, s) ← key? limits.names s
    return (.header key, ← after? ']' s)
  | s => (assignment? limits.names (value? limits) s).map fun p => (.entry p.1.1 p.1.2, p.2)

/-- The statement of a line, if it has one, and the text after the line. -/
def line? (limits : Limits) (s : List Char) : Option (Option Statement × List Char) :=
  match endLine? s with
  | some r => some (none, r)
  | none => do
    let (statement, r) ← statement? limits (skipBlanks s)
    return (some statement, ← endLine? r)

/-- The statements of a text, line by line. -/
def statements? (limits : Limits) (s : List Char) : Option (List Statement) :=
  if s.isEmpty then some []
  else match line? limits s with
    | none => none
    | some (statement, r) =>
      if r.length < s.length then (statements? limits r).map (statement.toList ++ ·) else none
termination_by s.length

namespace Table

/-- A document under construction: its table, and where the last header points. -/
structure Draft where
  table : Table
  current : List String

def Draft.add (d : Draft) : Statement → Option Draft
  | .entry key v => do
    let put (origin : Origin) (t : Table) := insert origin t key v
    return { d with table := ← alter .header put d.current .header d.table }
  | .header key => do
    return { table := ← openTable d.table key, current := key.path ++ [key.name] }
  | .element key => do
    return { table := ← appendTable d.table key, current := key.path ++ [key.name] }

/-- The table that statements build up. -/
def ofStatements? (statements : List Statement) : Option Table :=
  (statements.foldlM Draft.add ⟨[], []⟩).map Draft.table

/-- The table that a text stands for, if it keeps to the limits. The text may start with a byte order
mark. -/
def ofText? (limits : Limits) (s : List Char) : Option Table :=
  statements? limits (if s.head? = some '\ufeff' then s.drop 1 else s) >>= ofStatements?

end Table

end BootClock.Toml
