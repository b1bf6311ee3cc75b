import BootClock.Binary64
/-!
# The shortest decimal that reads back

`shortest` finds, for a finite number, the fewest decimal digits whose value rounds to that number,
and of those the nearest to it. On each decimal grid it is enough to try the two neighbours of the
number: if any point of the grid rounds to the number, one of these two does.
-/

namespace BootClock.Decimal

/-- `digits · 10 ^ exponent`. -/
structure Scientific where
  digits : Nat
  exponent : Int
  deriving DecidableEq, Repr

/-- Which of two equally near decimals is taken. -/
inductive Tie where
  | up
  | even
  deriving DecidableEq, Repr

/-- A positive number and the reals that round to it: all three over the common denominator. -/
structure Window where
  low : Nat
  value : Nat
  high : Nat
  den : Nat
  closed : Bool

/-- The reals that round to `mantissa · 2 ^ exponent`; the ends belong to them if the mantissa is
even. Below a power of two the gap to the next number is half as wide. -/
def Window.of (mantissa : Nat) (exponent : Int) : Window :=
  let (p, q) := Binary64.powerOfTwo (exponent - 2)
  let below := if mantissa = Nat.pow 2 52 ∧ exponent > -1074 then 1 else 2
  { low := (4 * mantissa - below) * p
    value := 4 * mantissa * p
    high := (4 * mantissa + 2) * p
    den := q
    closed := mantissa % 2 == 0 }

/-- `10 ^ exponent` as a fraction. -/
def powerOfTen (e : Int) : Nat × Nat :=
  if e < 0 then (1, Nat.pow 10 e.natAbs) else (Nat.pow 10 e.natAbs, 1)

/-- The decimal lies in the window. -/
def Window.holds (w : Window) (s : Scientific) : Bool :=
  let (p, q) := powerOfTen s.exponent
  let x := s.digits * p * w.den
  if w.closed then w.low * q ≤ x && x ≤ w.high * q else w.low * q < x && x < w.high * q

/-- The exponent of the leading digit. -/
def Window.magnitude (w : Window) : Int :=
  let guess : Int := ((Nat.toDigits 10 w.value).length : Int) - (Nat.toDigits 10 w.den).length
  let (p, q) := powerOfTen guess
  if p * w.den ≤ w.value * q then guess else guess - 1

/-- The decimal on the grid `10 ^ exponent` that reads back and is nearest, if one does. -/
def Window.onGrid (tie : Tie) (w : Window) (exponent : Int) : Option Scientific :=
  let (p, q) := powerOfTen exponent
  let unit := p * w.den
  let floor := w.value * q / unit
  let rest := w.value * q % unit
  let lower : Scientific := ⟨floor, exponent⟩
  let upper : Scientific := ⟨floor + 1, exponent⟩
  let upperNearer := unit < 2 * rest || (2 * rest == unit && (tie == .up || floor % 2 == 1))
  match w.holds lower && floor != 0, w.holds upper with
  | true, true => some (if upperNearer then upper else lower)
  | true, false => some lower
  | false, true => some upper
  | false, false => none

/-- Drops the zeros a run of digits ends with. -/
def Scientific.trim (s : Scientific) : Nat → Scientific
  | 0 => s
  | k + 1 => if s.digits % 10 = 0 then Scientific.trim ⟨s.digits / 10, s.exponent + 1⟩ k else s

/-- The fewest digits, at most seventeen, that read back as `mantissa · 2 ^ exponent`. -/
def shortest (tie : Tie) (mantissa : Nat) (exponent : Int) : Scientific :=
  let w := Window.of mantissa exponent
  let top := w.magnitude
  let found := (List.range 17).findSome? fun (k : Nat) => w.onGrid tie (top - k)
  (found.getD ⟨0, 0⟩).trim 17

example : shortest .even 1 (-1074) = ⟨5, -324⟩ := by decide +kernel

example : shortest .even (2 ^ 52) 0 = ⟨4503599627370496, 0⟩ := by decide +kernel

end BootClock.Decimal
