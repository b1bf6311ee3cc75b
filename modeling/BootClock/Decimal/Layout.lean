import BootClock.Decimal.Shortest
import BootClock.Text.Numeral
/-!
# Writing a floating-point number in a message

A `Layout` says where positional writing ends and how an exponent looks. Two layouts are in
use: that of messages about JSON, which turns to an exponent for very large and very small numbers,
and that of messages about configuration files, which always writes every place.
-/

namespace BootClock.Decimal

/-- The decisions of a number format. -/
structure Layout where
  /-- Which of two equally near shortest decimals is taken. -/
  tie : Tie
  /-- Exponents of the leading digit that are written positionally; `none` for all. -/
  positional : Option (Int × Int)

/-- Digits with a point `places` digits from the right; a whole number ends in `.0`. -/
def point (digits : List Char) (places : Nat) : List Char :=
  if places = 0 then digits ++ ['.', '0']
  else
    let padded := List.replicate (places + 1 - digits.length) '0' ++ digits
    padded.take (padded.length - places) ++ '.' :: padded.drop (padded.length - places)

/-- Every place written out. -/
def everyPlace (s : Scientific) : List Char :=
  if s.exponent < 0 then point (Numeral.ofNat s.digits) s.exponent.natAbs
  else point (Numeral.ofNat s.digits ++ List.replicate s.exponent.natAbs '0') 0

/-- One digit before the point, and the exponent with its sign. -/
def withExponent (s : Scientific) : List Char :=
  let digits := Numeral.ofNat s.digits
  let e : Int := s.exponent + digits.length - 1
  let rest := digits.drop 1
  digits.take 1 ++ (if rest.isEmpty then [] else '.' :: rest) ++
    ['e', if e < 0 then '-' else '+'] ++ Numeral.ofNat e.natAbs

/-- The exponent of the leading digit. -/
def Scientific.leading (s : Scientific) : Int :=
  s.exponent + (Numeral.ofNat s.digits).length - 1

/-- The digits of a number that is not negative. -/
def Layout.magnitude (n : Layout) (s : Scientific) : List Char :=
  match n.positional with
  | none => everyPlace s
  | some (low, high) =>
    if low ≤ s.leading ∧ s.leading ≤ high then everyPlace s else withExponent s

/-- The text of any floating-point number. -/
def Layout.write (n : Layout) (x : Binary64) : String :=
  let signed (negative : Bool) (cs : List Char) := if negative then '-' :: cs else cs
  String.ofList <| match x with
    | .nan => ['N', 'a', 'N']
    | .infinite s => signed s ['i', 'n', 'f']
    | .finite s 0 _ => signed s ['0', '.', '0']
    | .finite s m e => signed s (n.magnitude (shortest n.tie m e))

/-- Numbers in messages about JSON: an exponent from `1e+16` up and below `0.00001`. -/
def jsonLayout : Layout := ⟨.even, some (-5, 15)⟩

/-- Numbers in messages about configuration files: never an exponent. -/
def plainLayout : Layout := ⟨.up, none⟩

example : jsonLayout.write (.ofNat (2 ^ 64)) = "1.8446744073709552e+19" := by decide +kernel

example : jsonLayout.write (.ofDecimal true 225 (-2)) = "-2.25" := by decide +kernel

example : jsonLayout.write (.ofDecimal false 1 (-5)) = "0.00001" := by decide +kernel

example : jsonLayout.write (.ofDecimal false 15 (-7)) = "1.5e-6" := by decide +kernel

example : plainLayout.write (.ofDecimal false 1 21) = "1000000000000000000000.0" := by
  decide +kernel

end BootClock.Decimal
