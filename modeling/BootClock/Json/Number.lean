import BootClock.Json.Basic
/-!
# JSON numbers

A numeral without fraction and exponent that lies between `-2 ^ 63` and `2 ^ 64 - 1` is an integer;
every other one, and minus zero, is a floating-point number. Of a long numeral only as many leading
digits are used as fit 64 bits. They are scaled by one correctly rounded power of ten, so the last
bit of such a number may be off; a number too large to be finite is malformed.
-/

namespace BootClock.Json

inductive Number where
  | integer (n : Int)
  | float (x : Binary64)
  deriving DecidableEq, Repr

namespace Number

/-- Digits are added to `n` as long as the number stays below `2 ^ 64`; the number, and how many
were added. -/
def absorb (n : Nat) : List Char → Nat × Nat
  | [] => (n, 0)
  | c :: cs =>
    let next := n * 10 + (c.toNat - '0'.toNat)
    if 18446744073709551615 < next then (n, 0)
    else
      let (m, k) := absorb next cs
      (m, k + 1)

/-- Division by `10 ^ k`, at most 308 places at a time. -/
def divide (x : Binary64) (k : Nat) : Binary64 :=
  if k ≤ 308 then x.div (.powerOfTen k)
  else if x.isZero then x
  else divide (x.div (.powerOfTen 308)) (k - 308)
termination_by k

/-- `n · 10 ^ exponent` in floating-point arithmetic, if it is finite. -/
def scale? (negative : Bool) (n : Nat) (exponent : Int) : Option Number :=
  let x := Binary64.ofNat n
  let y :=
    if exponent < 0 then divide x exponent.natAbs
    else if exponent ≤ 308 then x.mul (.powerOfTen exponent.natAbs)
    else if x.isZero then x
    else .infinite false
  if y.isFinite then some (.float (if negative then y.neg else y)) else none

/-- What follows the letter of an exponent: its sign, and its digits. -/
def exponentSign : List Char → Bool × List Char
  | '+' :: s => (false, s)
  | '-' :: s => (true, s)
  | s => (false, s)

/-- The number whose significant digits were read, at an optional exponent. An exponent that needs
more than 31 bits leaves only zero or nothing. -/
def withExponent? (negative : Bool) (n : Nat) (exponent : Int) :
    List Char → Option (Number × List Char)
  | [] => do return (← scale? negative n exponent, [])
  | c :: s =>
    if c = 'e' ∨ c = 'E' then
      let (down, s) := exponentSign s
      let digits := s.takeWhile Char.isDigit
      let rest := s.dropWhile Char.isDigit
      let e := Numeral.value digits
      if digits.isEmpty then none
      else if 2147483647 < e then
        if n ≠ 0 ∧ ¬ down then none
        else
          let zero := Binary64.ofNat 0
          some (.float (if negative then zero.neg else zero), rest)
      else do return (← scale? negative n (if down then exponent - e else exponent + e), rest)
    else do return (← scale? negative n exponent, c :: s)

/-- The number after its digits before the point, of which the first gave `n` and `dropped` more
were left out. -/
def afterDigits? (negative : Bool) (n dropped : Nat) : List Char → Option (Number × List Char)
  | '.' :: s =>
    let digits := s.takeWhile Char.isDigit
    let (m, k) := absorb n digits
    if digits.isEmpty then none
    else withExponent? negative m (dropped - k) (s.dropWhile Char.isDigit)
  | s =>
    if dropped ≠ 0 ∨ s.head? = some 'e' ∨ s.head? = some 'E' then withExponent? negative n dropped s
    else if ¬ negative then some (.integer n, s)
    else if 0 < n ∧ n ≤ 9223372036854775808 then some (.integer (-n), s)
    else some (.float (Binary64.ofNat n).neg, s)

/-- A numeral without its sign. Only zero itself starts with a zero. -/
def magnitude? (negative : Bool) (s : List Char) : Option (Number × List Char) :=
  let digits := s.takeWhile Char.isDigit
  let (n, k) := absorb 0 digits
  if digits.isEmpty ∨ (digits.head? = some '0' ∧ 1 < digits.length) then none
  else afterDigits? negative n (digits.length - k) (s.dropWhile Char.isDigit)

/-- The number a text starts with, and the text after it. -/
def read? : List Char → Option (Number × List Char)
  | '-' :: s => magnitude? true s
  | s => magnitude? false s

/-- What a number is called in a message. -/
def found : Number → Found
  | integer n => .integer n
  | float x => .float x

/-- The text after a numeral of which only the grammar counts. -/
def skip? (s : List Char) : Option (List Char) :=
  let unsigned := match s with
    | '-' :: s => s
    | s => s
  let digits := unsigned.takeWhile Char.isDigit
  let rest := unsigned.dropWhile Char.isDigit
  let fraction := match rest with
    | '.' :: s => (s.takeWhile Char.isDigit, s.dropWhile Char.isDigit)
    | s => (['0'], s)
  let exponent := match fraction.2 with
    | c :: s =>
      if c = 'e' ∨ c = 'E' then
        let t := (exponentSign s).2
        (t.takeWhile Char.isDigit, t.dropWhile Char.isDigit)
      else (['0'], c :: s)
    | [] => (['0'], [])
  if digits.isEmpty ∨ (digits.head? = some '0' ∧ 1 < digits.length) ∨ fraction.1.isEmpty ∨
      exponent.1.isEmpty then none
  else some exponent.2

example : read? "-12,".toList = some (.integer (-12), [',']) := by decide +kernel

example : read? "007".toList = none := by decide +kernel

example : read? "1e400".toList = none := by decide +kernel

end Number

end BootClock.Json
