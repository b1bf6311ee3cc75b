import BootClock.Pattern.Atom
/-!
# Sets of a pattern

A set stands between brackets: characters, ranges of them, named classes, and sets within it; or an
intersection, a difference or a symmetric difference of such lists. Reading a set tells how deep it
nests, where a list of more than one member is a level of its own.
-/

namespace BootClock.Pattern

/-- How deep a list of members nests, one level more if it has more than one. -/
def joined : List Nat → Nat
  | [] => 0
  | [d] => d
  | ds => ds.foldl max 0 + 1

/-- A set that is open: the operand before the last operator, and the members since. -/
structure Bracket where
  left : Option Nat
  members : List Nat

namespace Bracket

def start : Bracket := ⟨none, []⟩

def add (b : Bracket) (depth : Nat) : Bracket := { b with members := depth :: b.members }

/-- How deep what has been read nests. -/
def depth (b : Bracket) : Nat := match b.left with
  | none => joined b.members
  | some l => max l (joined b.members) + 1

/-- After an operator. -/
def operator (b : Bracket) : Bracket := ⟨some b.depth, []⟩

end Bracket

/-- The classes that a set may name. -/
def classNames : List String :=
  ["alnum", "alpha", "ascii", "blank", "cntrl", "digit", "graph", "lower", "print", "punct",
    "space", "upper", "word", "xdigit"]

/-- Behind an opening bracket: the named class that it starts, whether it is negated, and the text
after it. -/
def namedClass? : List Char → Option (Bool × List Char)
  | ':' :: s =>
    let negated := s.head? = some '^'
    let s := if negated then s.drop 1 else s
    match s.dropWhile (· != ':') with
    | ':' :: ']' :: r =>
      if String.ofList (s.takeWhile (· != ':')) ∈ classNames then some (negated, r) else none
    | _ => none
  | _ => none

/-- A named class may stand in a set. -/
def namedAllowed (m : Mode) (negated : Bool) : Bool := if m.unicode then !m.anyCase else !negated

/-- The character behind a dash tells whether the dash makes a range. A comment before it hides only
its own mark. -/
def afterDash (m : Mode) (s : List Char) : Option Char :=
  if !m.spaced then s.head?
  else
    let r := match s.dropWhile isBlank with
      | '#' :: r => r.dropWhile isBlank
      | r => r
    if r.isEmpty then s.head? else r.head?

/-- A character, a shorthand or a range of characters; the text after it. -/
def member? (m : Mode) (s : List Char) : Option (List Char) := do
  let (first, r) ← setAtom? m s
  if !first.allowedInSet m then none
  else match m.next r with
    | '-' :: t =>
      if afterDash m t = some ']' ∨ afterDash m t = some '-' then return '-' :: t
      else
        let (last, r) ← setAtom? m (m.next t)
        match first, last with
        | .character a _, .character b _ =>
          if last.allowedInSet m ∧ a ≤ b then return r else none
        | _, _ => none
    | r => return r

/-- After an opening bracket: whether the set is negated, and the text after that. -/
def negation (m : Mode) (s : List Char) : Bool × List Char :=
  match m.next s with
  | '^' :: s => (true, s)
  | s => (false, s)

/-- Where a set is being read: only at its start a closing bracket, and there and behind dashes a
dash, are characters. -/
inductive SetPlace where
  | start
  | dashes
  | inside
  deriving DecidableEq, Repr

/-- Reads on in a set until it is closed: how deep it nests, and the text after it. The sets around
it come innermost first. -/
def readSet? (m : Mode) (place : SetPlace) (b : Bracket) (outer : List Bracket) (s : List Char) :
    Option (Nat × List Char) :=
  let on (place : SetPlace) (b : Bracket) (outer : List Bracket) (r : List Char) :=
    if r.length < s.length then readSet? m place b outer r else none
  match m.next s with
  | [] => none
  | c :: r =>
    if c = '-' ∧ place ≠ .inside then
      if (Atom.character c false).allowedInSet m then on .dashes (b.add 0) outer r else none
    else if c = ']' ∧ place = .start then
      if (Atom.character c false).allowedInSet m then on .inside (b.add 0) outer r else none
    else if c = ']' then match outer with
      | [] => some (b.depth + 1, r)
      | o :: outer => on .inside (o.add (b.depth + 1)) outer r
    else if c = '[' then match namedClass? r with
      | some (negated, r) => if namedAllowed m negated then on .inside (b.add 0) outer r else none
      | none =>
        let (negated, r) := negation m r
        if negated && !m.unicode then none else on .start .start (b :: outer) r
    else if (c = '&' ∨ c = '-' ∨ c = '~') ∧ r.head? = some c then
      on .inside b.operator outer (r.drop 1)
    else match member? m (c :: r) with
      | some r => on .inside (b.add 0) outer r
      | none => none
termination_by s.length

/-- A set after its opening bracket. -/
def set? (m : Mode) (s : List Char) : Option (Nat × List Char) :=
  let (negated, r) := negation m s
  if negated && !m.unicode then none else readSet? m .start .start [] r

example : set? .standard "a-z&&[^b]]c".toList = some (3, ['c']) := by decide +kernel

example : set? .standard "z-a]".toList = none := by decide +kernel

end BootClock.Pattern
