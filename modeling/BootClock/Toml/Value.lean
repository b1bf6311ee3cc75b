import BootClock.Toml.Moment
import BootClock.Toml.Number
import BootClock.Toml.Table
/-!
# Reading a value of a document

A scalar, an array or an inline table. Arrays may go over several lines, with comments, and may end
in a comma; inline tables stay on one line and may not. A reader has limits: how many names a key may
have, how deep arrays and inline tables may be nested, and whether a number may be too large for a
floating-point number. The language itself has none of them.
-/

namespace BootClock.Toml

structure Limits where
  /-- The most names that a key may have. -/
  names : Nat
  /-- How deep arrays and inline tables may be nested. -/
  nesting : Nat
  /-- A positive number that is too large to be finite is refused. -/
  finite : Bool
  deriving DecidableEq, Repr

/-- The limits of the reader of settings. -/
def Limits.standard : Limits := ⟨79, 79, true⟩

/-- A number. One with a fraction or an exponent is no integer. -/
def number? (finite : Bool) (s : List Char) : Option (Value × List Char) :=
  match named? s with
  | some (x, rest) => some (.float x, rest)
  | none => match float? s with
    | some (x, rest) => if finite ∧ x = .infinite false then none else some (.float x, rest)
    | none => (integer? s).map fun p => (.integer p.1, p.2)

/-- A value that holds no others. Something that starts like a date or a time is read as one. -/
def scalar? (finite : Bool) (s : List Char) : Option (Value × List Char) :=
  match s with
  | '"' :: _ | '\'' :: _ => (anyText? s).map fun p => (.text (String.ofList p.1), p.2)
  | 't' :: 'r' :: 'u' :: 'e' :: s => some (.boolean true, s)
  | 'f' :: 'a' :: 'l' :: 's' :: 'e' :: s => some (.boolean false, s)
  | s => match moment? s with
    | some rest => some (.moment, rest)
    | none => number? finite s

/-- A key, an equals sign and a value. -/
def assignment? (most : Nat) (value : List Char → Option (Value × List Char)) (s : List Char) :
    Option ((Key × Value) × List Char) := do
  let (key, s) ← key? most s
  let s ← after? '=' s
  let (v, s) ← value (skipBlanks s)
  return ((key, v), s)

/-- The elements of an array, from after its bracket or a comma on. -/
def elements? (value : List Char → Option (Value × List Char)) (s : List Char) :
    Option (List Value × List Char) :=
  match skipGap false s with
  | ']' :: r => some ([], r)
  | r => match value r with
    | none => none
    | some (v, r) => match skipGap false r with
      | ']' :: r => some ([v], r)
      | ',' :: r =>
        if r.length < s.length then (elements? value r).map fun p => (v :: p.1, p.2) else none
      | _ => none
termination_by s.length

/-- The entries of an inline table, from one of them on. -/
def members? (most : Nat) (value : List Char → Option (Value × List Char)) (s : List Char) :
    Option (List (Key × Value) × List Char) :=
  match assignment? most value s with
  | none => none
  | some (e, r) => match skipBlanks r with
    | '\x7d' :: r => some ([e], r)
    | ',' :: r =>
      if r.length < s.length then (members? most value r).map fun p => (e :: p.1, p.2) else none
    | _ => none
termination_by s.length

/-- The table that stands in braces, from after the first one on. -/
def inline? (most : Nat) (value : List Char → Option (Value × List Char)) (s : List Char) :
    Option (Value × List Char) :=
  match skipBlanks s with
  | '\x7d' :: r => some (.table .inlined [], r)
  | _ => do
    let (entries, r) ← members? most value s
    return (.table .inlined (← Table.ofEntries? .inlined entries), r)

/-- A value whose arrays and inline tables are nested at most `depth` deep. -/
def valueWithin? (limits : Limits) : Nat → List Char → Option (Value × List Char)
  | depth + 1, '[' :: s =>
    (elements? (valueWithin? limits depth) s).map fun p => (.array p.1, p.2)
  | depth + 1, '\x7b' :: s => inline? limits.names (valueWithin? limits depth) s
  | _, s => scalar? limits.finite s

def value? (limits : Limits) (s : List Char) : Option (Value × List Char) :=
  valueWithin? limits limits.nesting s

end BootClock.Toml
