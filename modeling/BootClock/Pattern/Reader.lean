import BootClock.Pattern.Set
import BootClock.Text.Alphanumeric
/-!
# Well-formed patterns

A pattern is a regular expression, as it may stand for the value of a field in a directive: it holds
no closing brace, and so no counted repetition. Reading it tells only whether it can be used. It
cannot if it is malformed, nests too deep, or asks for what needs tables of scripts; and the machine
that would match it knows no words of characters, only of bytes.
-/

namespace BootClock.Pattern

/-- Why a pattern cannot be used. -/
inductive Fault where
  /-- It is not well formed. -/
  | malformed
  /-- It asks where words of characters start or end. -/
  | wordEdge
  deriving DecidableEq, Repr

/-- The most levels of groups, repetitions, lists and sets. -/
def deepest : Nat := 250

/-- A part of a list of parts. -/
inductive Part where
  /-- A change of the mode; it cannot be repeated. -/
  | mode
  /-- Anything else, and how deep it nests. -/
  | nested (depth : Nat)

def Part.depth : Part → Nat
  | mode => 0
  | nested d => d

/-- What has been read of a group: how deep its earlier alternatives nest, and the parts of the
current one, the last first. -/
structure Group where
  alternatives : List Nat
  parts : List Part

namespace Group

def start : Group := ⟨[], []⟩

def add (g : Group) (p : Part) : Group := { g with parts := p :: g.parts }

/-- After a bar: the parts that follow make another alternative. -/
def next (g : Group) : Group := ⟨joined (g.parts.map Part.depth) :: g.alternatives, []⟩

/-- How deep the group nests within its parentheses. -/
def depth (g : Group) : Nat := joined g.next.alternatives

/-- With the last part repeated, if there is one that can be. -/
def repeat? (g : Group) : Option Group := match g.parts with
  | .nested d :: ps => some { g with parts := .nested (d + 1) :: ps }
  | _ => none

end Group

/-- What is known while a pattern is read. -/
structure Reading where
  mode : Mode
  group : Group
  /-- The groups around it, innermost first, and the modes that hold in them. -/
  outer : List (Group × Mode)
  /-- The names of groups. -/
  names : List (List Char)
  /-- It asks where words of characters start or end. -/
  wordEdge : Bool

namespace Reading

def start : Reading := ⟨.standard, .start, [], [], false⟩

def add (r : Reading) (p : Part) : Reading := { r with group := r.group.add p }

/-- With an atom, if it may stand there. -/
def addAtom? (r : Reading) (a : Atom) : Option Reading :=
  if a.allowed r.mode then
    some { r.add (.nested 0) with wordEdge := r.wordEdge || (r.mode.unicode && a = .wordEdge) }
  else none

/-- After an opening parenthesis. -/
def enter (r : Reading) (mode : Mode) : Reading :=
  { r with mode, group := .start, outer := (r.group, r.mode) :: r.outer }

/-- After a closing parenthesis. -/
def leave? (r : Reading) : Option Reading := match r.outer with
  | (g, mode) :: outer =>
    some { r with mode, group := g.add (.nested (r.group.depth + 1)), outer }
  | [] => none

end Reading

/-! ## What an opening parenthesis starts -/

/-- Signs behind a question mark that are not supported: they would look ahead or behind. -/
def looksAround (s : List Char) : Bool :=
  ["=", "!", "<=", "<!"].any fun sign => sign.toList.isPrefixOf s

def isNameStart (c : Char) : Bool := c == '_' || isLetter c

def isNameChar (c : Char) : Bool := c ∈ ['_', '.', '[', ']'] || isAlphanumeric c

/-- The name of a group and the text after its closing angle. -/
def groupName? (s : List Char) : Option (List Char × List Char) :=
  let name := s.takeWhile (· != '>')
  match s.dropWhile (· != '>') with
  | _ :: r =>
    if (name.head?.any isNameStart) && name.all isNameChar then some (name, r) else none
  | [] => none

def switches : List Char := ['i', 'm', 's', 'U', 'u', 'R', 'x']

/-- The mode after switches, of which those behind a dash are switched off. -/
def Mode.set (m : Mode) (flags : List Char) : Mode :=
  let value (flag : Char) (old : Bool) : Bool :=
    if flag ∈ flags then flag ∈ flags.takeWhile (· != '-') else old
  ⟨value 'i' m.anyCase, value 'u' m.unicode, value 'x' m.spaced⟩

/-- Switches up to a colon or a closing parenthesis: each stands once, and one follows the dash. -/
def flags? (s : List Char) : Option (List Char × Char × List Char) :=
  let isEnd (c : Char) : Bool := c == ':' || c == ')'
  let flags := s.takeWhile (!isEnd ·)
  match s.dropWhile (!isEnd ·) with
  | mark :: r =>
    if flags.all (fun c => c == '-' || switches.contains c) ∧ flags.Nodup ∧
        flags.getLast? ≠ some '-' then some (flags, mark, r) else none
  | [] => none

/-- A named group after the angle that opens its name. -/
def openNamed? (r : Reading) (s : List Char) : Option (Reading × List Char) := do
  let (name, s) ← groupName? s
  if name ∈ r.names then none
  else return ({ r.enter r.mode with names := name :: r.names }, s)

/-- Switches, for what follows or for a group of their own, after their question mark. -/
def openFlags? (r : Reading) (s : List Char) : Option (Reading × List Char) := do
  let (flags, mark, s) ← flags? s
  let mode := r.mode.set flags
  if mark = ':' then return (r.enter mode, s)
  else if flags.isEmpty then none
  else return ({ r.add .mode with mode }, s)

/-- After an opening parenthesis. -/
def open? (r : Reading) (s : List Char) : Option (Reading × List Char) :=
  match r.mode.next s with
  | '?' :: s =>
    if looksAround s then none
    else match s with
      | 'P' :: '<' :: s | '<' :: s => openNamed? r s
      | s => openFlags? r s
  | s => some (r.enter r.mode, s)

/-! ## Reading a pattern -/

/-- One part more; `c` is the character before the text `s`. -/
def step? (r : Reading) (c : Char) (s : List Char) : Option (Reading × List Char) :=
  let atom (a : Atom) := (r.addAtom? a).map fun r => (r, s)
  match c with
  | '(' => open? r s
  | ')' => r.leave?.map fun r => (r, s)
  | '|' => some ({ r with group := r.group.next }, s)
  | '[' => (set? r.mode s).map fun (depth, s) => (r.add (.nested depth), s)
  | '?' | '*' | '+' =>
    r.group.repeat?.map fun group => ({ r with group }, if s.head? = some '?' then s.drop 1 else s)
  | '\x7b' => none
  | '\\' => do
    let (a, s) ← escape? r.mode s
    (r.addAtom? a).map fun r => (r, s)
  | '.' => atom .any
  | '^' | '$' => atom .edge
  | c => atom (.character c false)

/-- Reads to the end of a pattern. -/
def readOn? (r : Reading) (s : List Char) : Option Reading :=
  match r.mode.next s with
  | [] => some r
  | c :: t => match step? r c t with
    | some (r, t) => if t.length < s.length then readOn? r t else none
    | none => none
termination_by s.length

/-- Why a pattern cannot be used, if it cannot. -/
def fault? (s : List Char) : Option Fault :=
  match readOn? .start s with
  | none => some .malformed
  | some r =>
    if !r.outer.isEmpty ∨ deepest < r.group.depth then some .malformed
    else if r.wordEdge then some .wordEdge
    else none

example : fault? "(?x: a # (\n | [^]] )+?".toList = none := by decide +kernel

example : fault? "a|*".toList = some .malformed := by decide +kernel

example : fault? "(?P<n>a)(?P<n>b)".toList = some .malformed := by decide +kernel

example : fault? "(?-u)\\d\\b".toList = none := by decide +kernel

example : fault? "\\bx".toList = some .wordEdge := by decide +kernel

end BootClock.Pattern
