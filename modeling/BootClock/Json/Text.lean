import BootClock.Json.Basic
import BootClock.Text.Hex
/-!
# JSON strings

Writing puts a backslash before the quote and the backslash and replaces the control characters
below the space; everything else stands for itself. Reading also knows the other escapes, and takes
two escaped halves of a UTF-16 pair for one character.
-/

namespace BootClock.Json

/-! ## Writing -/

/-- One character between the quotes. -/
def escape (c : Char) : List Char :=
  match c with
  | '"' => ['\\', '"']
  | '\\' => ['\\', '\\']
  | '\x08' => ['\\', 'b']
  | '\x0c' => ['\\', 'f']
  | '\n' => ['\\', 'n']
  | '\r' => ['\\', 'r']
  | '\t' => ['\\', 't']
  | c =>
    if c.toNat < 32 then
      ['\\', 'u', '0', '0', Hex.digit (c.toNat / 16), Hex.digit (c.toNat % 16)]
    else [c]

def writeText (s : List Char) : List Char := '"' :: s.flatMap escape ++ ['"']

/-! ## Reading -/

/-- A piece of a string as it is written: a character, or a number of sixteen bits. -/
inductive Piece where
  | plain (c : Char)
  | unit (n : Nat)
  deriving DecidableEq, Repr

/-- The character that a letter after a backslash stands for. -/
def unescape? : Char → Option Char
  | '"' => some '"'
  | '\\' => some '\\'
  | '/' => some '/'
  | 'b' => some '\x08'
  | 'f' => some '\x0c'
  | 'n' => some '\n'
  | 'r' => some '\r'
  | 't' => some '\t'
  | _ => none

/-- The pieces up to the closing quote, and the text after it. -/
def pieces? : List Char → Option (List Piece × List Char)
  | [] => none
  | '"' :: s => some ([], s)
  | '\\' :: 'u' :: a :: b :: c :: d :: s => do
    let n ← Hex.number? 16 [a, b, c, d]
    let (ps, rest) ← pieces? s
    return (.unit n :: ps, rest)
  | '\\' :: e :: s => do
    let c ← unescape? e
    let (ps, rest) ← pieces? s
    return (.plain c :: ps, rest)
  | c :: s => do
    if c.toNat < 32 ∨ c = '\\' then none
    else
      let (ps, rest) ← pieces? s
      return (.plain c :: ps, rest)

def isHighHalf (n : Nat) : Bool := 0xD800 ≤ n && n ≤ 0xDBFF

def isLowHalf (n : Nat) : Bool := 0xDC00 ≤ n && n ≤ 0xDFFF

/-- The characters of the pieces. A half of a pair without the other half is none. -/
def joined? : List Piece → Option (List Char)
  | [] => some []
  | .plain c :: ps => do return c :: (← joined? ps)
  | [.unit n] => if isHighHalf n || isLowHalf n then none else some [Char.ofNat n]
  | .unit n :: .unit m :: ps =>
    if isHighHalf n then
      if isLowHalf m then do
        return Char.ofNat (0x10000 + (n - 0xD800) * 0x400 + (m - 0xDC00)) :: (← joined? ps)
      else none
    else if isLowHalf n then none
    else do return Char.ofNat n :: (← joined? (.unit m :: ps))
  | .unit n :: .plain c :: ps =>
    if isHighHalf n || isLowHalf n then none
    else do return Char.ofNat n :: c :: (← joined? ps)

/-- The string that a text goes on with after its opening quote. -/
def readText (s : List Char) : Except Fault (List Char × List Char) :=
  match pieces? s with
  | none => .error .malformed
  | some (ps, rest) => match joined? ps with
    | none => .error .malformed
    | some cs => .ok (cs, rest)

example : (readText "a\\u00e9\\ud83d\\ude00\"!".toList).toOption = some ("aé😀".toList, ['!']) := by
  decide +kernel

end BootClock.Json
