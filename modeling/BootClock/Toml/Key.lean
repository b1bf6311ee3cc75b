import BootClock.Toml.Text
/-!
# Keys of a document

A key is a path of one name or more, with dots between them and blanks around. A name is bare, made
of letters, digits, underscores and dashes, or a string on one line.
-/

namespace BootClock.Toml

/-- A key: the names that lead to a table, and the name in it. -/
structure Key where
  path : List String
  name : String
  deriving DecidableEq, Repr

/-- Characters of a bare name. -/
def isBare (c : Char) : Bool := c.isAlphanum || c == '_' || c == '-'

/-- One name of a key. -/
def name? (s : List Char) : Option (String × List Char) :=
  let bare := s.takeWhile isBare
  if bare.isEmpty then (lineText? s).map fun p => (String.ofList p.1, p.2)
  else some (String.ofList bare, s.dropWhile isBare)

/-- The names of a key. -/
def names? (s : List Char) : Option (List String × List Char) :=
  match name? (skipBlanks s) with
  | none => none
  | some (name, r) => match skipBlanks r with
    | '.' :: r =>
      if r.length < s.length then (names? r).map fun p => (name :: p.1, p.2) else none
    | r => some ([name], r)
termination_by s.length

/-- A key of at most `most` names. -/
def key? (most : Nat) (s : List Char) : Option (Key × List Char) := do
  let (names, s) ← names? s
  let name ← names.getLast?
  if names.length ≤ most then return (⟨names.dropLast, name⟩, s) else none

example : key? 3 " a . \"b.c\".'' = 1".toList = some (⟨["a", "b.c"], ""⟩, "= 1".toList) := by
  decide +kernel

example : key? 2 "a.b.c".toList = none := by decide +kernel

end BootClock.Toml
