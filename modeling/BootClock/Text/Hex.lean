/-!
# Hexadecimal digits

Digits up to `f` in either case, and the numbers they write in a base up to sixteen.
-/

namespace BootClock.Hex

/-- The digit of a number below sixteen, in lower case. -/
def digit (n : Nat) : Char := Nat.digitChar n

/-- The value of a digit of either case. -/
def value? (c : Char) : Option Nat :=
  if c.isDigit then some (c.toNat - '0'.toNat)
  else if 'a' ≤ c ∧ c ≤ 'f' then some (c.toNat - 'a'.toNat + 10)
  else if 'A' ≤ c ∧ c ≤ 'F' then some (c.toNat - 'A'.toNat + 10)
  else none

/-- The number that digits write in a base; none if one of them is no digit of it. -/
def number? (base : Nat) (s : List Char) : Option Nat :=
  s.foldlM (fun n c => do
    let d ← value? c
    if d < base then return base * n + d else none) 0

theorem value?_digit {n : Nat} (h : n < 16) : value? (digit n) = some n := by
  have : ∀ m : Fin 16, value? (digit m) = some m.val := by decide
  exact this ⟨n, h⟩

example : number? 16 "1fF".toList = some 511 := by decide +kernel

example : number? 8 "18".toList = none := by decide +kernel

end BootClock.Hex
