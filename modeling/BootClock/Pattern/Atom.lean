import BootClock.Text.Blank
import BootClock.Text.Hex
/-!
# Atoms of a pattern

A pattern is a regular expression. Its smallest parts are characters, which an escape may write, and
single signs. What may be written depends on the mode that holds at that place; no tables of scripts
are at hand, so shorthands for digits, spaces and words, and disregarding the case, are there for
bytes alone.
-/

namespace BootClock.Pattern

/-- What a pattern can switch on and off for the rest of a group. -/
structure Mode where
  /-- The case of letters does not matter. -/
  anyCase : Bool
  /-- The pattern is about characters, not bytes. -/
  unicode : Bool
  /-- White space and comments are skipped. -/
  spaced : Bool
  deriving DecidableEq, Repr

def Mode.standard : Mode := ⟨false, true, false⟩

/-- The text after the white space and the comments it starts with. -/
def skipGaps (inComment : Bool) : List Char → List Char
  | [] => []
  | c :: s =>
    if inComment then skipGaps (c != '\n') s
    else if isBlank c then skipGaps false s
    else if c = '#' then skipGaps true s
    else c :: s

/-- The text from the next character that counts. -/
def Mode.next (m : Mode) (s : List Char) : List Char := if m.spaced then skipGaps false s else s

inductive Atom where
  /-- A character; its number may have been given as that of a byte. -/
  | character (c : Char) (asByte : Bool)
  /-- Any character. -/
  | any
  /-- The start or the end of the text or of a line. -/
  | edge
  /-- The start or the end of a word, or neither. -/
  | wordEdge
  /-- A shorthand for digits, spaces or words, or for all but them. -/
  | shorthand (negated : Bool)
  deriving DecidableEq, Repr

namespace Atom

/-- The atom may stand in a pattern. A pattern of bytes must not match half a character. -/
def allowed (m : Mode) : Atom → Bool
  | character c asByte => if m.unicode then !m.anyCase else !asByte || c.toNat < 0x80
  | any => m.unicode
  | shorthand negated => !m.unicode && !negated
  | edge | wordEdge => true

/-- The atom may stand in a set. -/
def allowedInSet (m : Mode) : Atom → Bool
  | character c _ => if m.unicode then !m.anyCase else c.toNat < 0x80
  | shorthand negated => !m.unicode && !negated
  | any | edge | wordEdge => false

end Atom

/-! ## Escapes -/

/-- The number that `width` hexadecimal digits write, with gaps between them where the mode has
some. -/
def hexNumber? (m : Mode) : Nat → Nat → List Char → Option (Nat × List Char)
  | 0, n, s => some (n, s)
  | width + 1, n, s => match m.next s with
    | c :: s => (Hex.value? c).bind fun d => hexNumber? m width (16 * n + d) s
    | [] => none

/-- The character whose number is given by that many digits. -/
def numbered? (m : Mode) (width : Nat) (s : List Char) : Option (Atom × List Char) :=
  (hexNumber? m width 0 s).bind fun (n, s) =>
    if n.isValidChar then some (.character (.ofNat n) (width = 2), s) else none

/-- The control characters that have an escape of their own. -/
def controls : List (Char × Char) :=
  [('a', '\x07'), ('t', '\t'), ('n', '\n'), ('v', '\x0b'), ('f', '\x0c'), ('r', '\r')]

/-- The atom of an escape, after its backslash. Letters and digits that name no escape are kept
free, and references back to groups and classes of characters by property are not supported. -/
def escape? (m : Mode) : List Char → Option (Atom × List Char)
  | 'x' :: s => numbered? m 2 s
  | 'u' :: s => numbered? m 4 s
  | 'U' :: s => numbered? m 8 s
  | c :: s =>
    if c ∈ ['d', 's', 'w'] then some (.shorthand false, s)
    else if c ∈ ['D', 'S', 'W'] then some (.shorthand true, s)
    else if c ∈ ['A', 'z'] then some (.edge, s)
    else if c ∈ ['b', 'B', '<', '>'] then some (.wordEdge, s)
    else if c.toNat < 0x80 ∧ !c.isAlphanum then some (.character c false, s)
    else (controls.lookup c).map fun control => (.character control false, s)
  | [] => none

/-- One character of a set, escaped or not. -/
def setAtom? (m : Mode) : List Char → Option (Atom × List Char)
  | '\\' :: s => escape? m s
  | c :: s => some (.character c false, s)
  | [] => none

example : escape? .standard "x41b".toList = some (.character 'A' true, ['b']) := by decide +kernel

example : escape? .standard ['q'] = none := by decide +kernel

end BootClock.Pattern
