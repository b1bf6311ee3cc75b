/-!
# Binary floating-point numbers of 64 bits

A finite number is `mantissa · 2 ^ exponent` with a sign; it keeps its sign at zero. Arithmetic is
exact rational arithmetic followed by one rounding to the nearest number of 53 significant bits,
halves to the even neighbour (`ofRatio`).
-/

namespace BootClock

/-- A 64-bit floating-point number. A finite one has `mantissa < 2 ^ 53` and `exponent ≥ -1074`,
and the mantissa has all 53 bits unless the exponent is the lowest. -/
inductive Binary64 where
  | nan
  | infinite (negative : Bool)
  | finite (negative : Bool) (mantissa : Nat) (exponent : Int)
  deriving DecidableEq, Repr

namespace Binary64

/-- Quotient of `num` by `den` to the nearest whole number, a half to the even one. -/
def roundHalfEven (num den : Nat) : Nat :=
  let q := num / den
  let r := num % den
  if 2 * r < den then q else if den < 2 * r then q + 1 else q + q % 2

/-- `num / den` in units of `2 ^ exponent`, as a fraction. -/
def scaled (num den : Nat) (exponent : Int) : Nat × Nat :=
  let p := Nat.pow 2 exponent.natAbs
  if exponent < 0 then (num * p, den) else (num, den * p)

/-- The exponent at which `num / den` has 53 bits before the point, or the lowest one there is. -/
def exponentOf (num den : Nat) : Int :=
  let guess : Int := (num.log2 : Int) - den.log2 - 52
  let (n, d) := scaled num den guess
  max (-1074) (if n / d < Nat.pow 2 52 then guess - 1 else guess)

/-- The number nearest to `num / den`, with the given sign. -/
def ofRatio (negative : Bool) (num den : Nat) : Binary64 :=
  if num = 0 then .finite negative 0 (-1074)
  else
    let e := exponentOf num den
    let (n, d) := scaled num den e
    let m := roundHalfEven n d
    let (m, e) := if m = Nat.pow 2 53 then (Nat.pow 2 52, e + 1) else (m, e)
    if e > 971 then .infinite negative else .finite negative m e

def ofNat (n : Nat) : Binary64 := ofRatio false n 1

/-- `10 ^ k`, rounded. -/
def powerOfTen (k : Nat) : Binary64 := ofNat (Nat.pow 10 k)

/-- The number nearest to `digits · 10 ^ exponent`. Exponents far outside the range of finite
numbers are answered without computing the power. -/
def ofDecimal (negative : Bool) (digits : Nat) (exponent : Int) : Binary64 :=
  let width := (Nat.toDigits 10 digits).length
  if digits = 0 then .finite negative 0 (-1074)
  else if (width : Int) + exponent > 310 then .infinite negative
  else if (width : Int) + exponent < -330 then .finite negative 0 (-1074)
  else if exponent < 0 then ofRatio negative digits (Nat.pow 10 exponent.natAbs)
  else ofRatio negative (digits * Nat.pow 10 exponent.natAbs) 1

/-- The two exponents' powers of two, as a fraction `2 ^ e`. -/
def powerOfTwo (e : Int) : Nat × Nat :=
  if e < 0 then (1, Nat.pow 2 e.natAbs) else (Nat.pow 2 e.natAbs, 1)

/-- Product of finite numbers, rounded once; any other operand gives `nan`. -/
def mul : Binary64 → Binary64 → Binary64
  | .finite s m e, .finite t n f =>
    let (p, q) := powerOfTwo (e + f)
    ofRatio (s != t) (m * n * p) q
  | _, _ => .nan

/-- Quotient of finite numbers, rounded once, for a divisor that is not zero. -/
def div : Binary64 → Binary64 → Binary64
  | .finite s m e, .finite t n f =>
    let (p, q) := powerOfTwo (e - f)
    if n = 0 then .nan else ofRatio (s != t) (m * p) (n * q)
  | _, _ => .nan

def neg : Binary64 → Binary64
  | .nan => .nan
  | .infinite s => .infinite (!s)
  | .finite s m e => .finite (!s) m e

def isZero : Binary64 → Bool
  | .finite _ 0 _ => true
  | _ => false

def isFinite : Binary64 → Bool
  | .finite .. => true
  | _ => false

example : ofDecimal false 1 0 = .finite false (2 ^ 52) (-52) := by decide +kernel

example : ofDecimal false 5 (-324) = .finite false 1 (-1074) := by decide +kernel

example : ofNat (2 ^ 53 + 1) = ofNat (2 ^ 53) := by decide +kernel

example : ofDecimal false 1 309 = .infinite false := by decide +kernel

end Binary64

end BootClock
