import BootClock.Binary64
import BootClock.Saturating
import BootClock.Text.Hex
import BootClock.Text.Numeral
import BootClock.Toml.Blank
/-!
# Numbers of a document

Integers are 64-bit counts, in decimal with an optional sign or in base 16, 8 or 2 without one. A
floating-point number has a fraction or an exponent, or is `inf` or `nan`. Single underscores may
stand between digits, and no decimal number but zero itself starts with a zero.
-/

namespace BootClock.Toml

/-- The digits that a text starts with and the text after them; an underscore in front of a digit
is passed over. -/
def digitRun (isDigit : Char → Bool) : List Char → List Char × List Char
  | [] => ([], [])
  | c :: s =>
    if isDigit c then (c :: (digitRun isDigit s).1, (digitRun isDigit s).2)
    else if c = '_' ∧ s.head?.any isDigit then digitRun isDigit s
    else ([], c :: s)

/-- At least one digit, with underscores between digits only. -/
def digits? (isDigit : Char → Bool) (s : List Char) : Option (List Char × List Char) :=
  if s.head?.any isDigit then some (digitRun isDigit s) else none

/-- An optional sign: whether it is a minus, and the text after it. -/
def sign : List Char → Bool × List Char
  | '-' :: s => (true, s)
  | '+' :: s => (false, s)
  | s => (false, s)

/-- The digits of a decimal number before its point: a zero alone, or a number without leading
zeros. -/
def whole? : List Char → Option (List Char × List Char)
  | '0' :: s => some (['0'], s)
  | s => digits? Char.isDigit s

/-! ## Integers -/

/-- The base that a text asks for, and the text after its mark. -/
def base? : List Char → Option (Nat × List Char)
  | '0' :: 'x' :: s => some (16, s)
  | '0' :: 'o' :: s => some (8, s)
  | '0' :: 'b' :: s => some (2, s)
  | _ => none

def isDigitOf (base : Nat) (c : Char) : Bool := (Hex.value? c).any (· < base)

def integer? (s : List Char) : Option (Int64 × List Char) :=
  match base? s with
  | some (base, s) => do
    let (digits, rest) ← digits? (isDigitOf base) s
    return (← count? (← Hex.number? base digits), rest)
  | none => do
    let (negative, s) := sign s
    let (digits, rest) ← whole? s
    let n : Int := Numeral.value digits
    return (← count? (if negative then -n else n), rest)

/-! ## Floating-point numbers -/

/-- The digits after a point; none if there is no point with digits after it. -/
def fraction : List Char → List Char × List Char
  | '.' :: s => (digits? Char.isDigit s).getD ([], '.' :: s)
  | s => ([], s)

def exponent? : List Char → Option (Int × List Char)
  | [] => none
  | c :: s =>
    if c = 'e' ∨ c = 'E' then do
      let (negative, s) := sign s
      let (digits, rest) ← digits? Char.isDigit s
      let n : Int := Numeral.value digits
      return (if negative then -n else n, rest)
    else none

/-- A word that stands for a floating-point number. -/
def named? (s : List Char) : Option (Binary64 × List Char) :=
  let (negative, s) := sign s
  match s with
  | 'i' :: 'n' :: 'f' :: s => some (.infinite negative, s)
  | 'n' :: 'a' :: 'n' :: s => some (.nan, s)
  | _ => none

/-- A number in digits, with a fraction or an exponent. One that is too large to be finite is
infinite. -/
def float? (s : List Char) : Option (Binary64 × List Char) := do
  let (negative, s) := sign s
  let (digits, s) ← whole? s
  let (places, s) := fraction s
  let (exponent, rest) ← match exponent? s with
    | some e => some e
    | none => if places.isEmpty then none else some (0, s)
  return (.ofDecimal negative (Numeral.value (digits ++ places)) (exponent - places.length), rest)

example : integer? "-1_000 ".toList = some (-1000, [' ']) := by decide +kernel

example : integer? "0xff_Ff]".toList = some (65535, [']']) := by decide +kernel

example : integer? "9223372036854775808".toList = none := by decide +kernel

example : float? "1_0.0_1".toList = some (.ofDecimal false 1001 (-2), []) := by decide +kernel

example : float? "1e400".toList = some (.infinite false, []) := by decide +kernel

example : named? "+nan,".toList = some (.nan, [',']) := by decide +kernel

end BootClock.Toml
