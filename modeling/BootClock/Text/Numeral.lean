/-!
# Decimal numerals

Writing a number in decimal and reading it back: `value_ofNat` and `value_padded` say that nothing
is lost, with or without leading zeros. Only the ASCII digits count as digits.
-/

namespace BootClock.Numeral

/-- The decimal digits of `n`, without leading zeros. -/
def ofNat (n : Nat) : List Char := Nat.toDigits 10 n

/-- A negative number is written with a leading minus sign. -/
def ofInt (n : Int) : List Char := if n < 0 then '-' :: ofNat n.natAbs else ofNat n.natAbs

/-- The digits of `n` with zeros in front, at least `width` of them in all. -/
def padded (width n : Nat) : List Char :=
  List.replicate (width - (ofNat n).length) '0' ++ ofNat n

/-- The number that a list of digits writes. -/
def value (digits : List Char) : Nat := Nat.ofDigitChars 10 digits 0

def text (n : Nat) : String := String.ofList (ofNat n)

def intText (n : Int) : String := String.ofList (ofInt n)

theorem value_ofNat (n : Nat) : value (ofNat n) = n := Nat.ofDigitChars_ten_toDigits

theorem isDigit_of_mem_ofNat {n : Nat} {c : Char} (h : c ∈ ofNat n) : c.isDigit = true :=
  Nat.isDigit_of_mem_toDigits (by decide) (by decide) h

theorem value_replicate_zero_append (k : Nat) (cs : List Char) :
    value (List.replicate k '0' ++ cs) = value cs := by
  induction k with
  | zero => simp
  | succ k ih => simpa [List.replicate_succ, value, Nat.ofDigitChars] using ih

theorem value_padded (width n : Nat) : value (padded width n) = n := by
  rw [padded, value_replicate_zero_append, value_ofNat]

theorem isDigit_of_mem_padded {width n : Nat} {c : Char} (h : c ∈ padded width n) :
    c.isDigit = true := by
  rcases List.mem_append.1 h with h | h
  · rw [List.eq_of_mem_replicate h]; rfl
  · exact isDigit_of_mem_ofNat h

/-- A number below the power of ten fills its width exactly. -/
theorem length_padded {width n : Nat} (hw : 0 < width) (hn : n < Nat.pow 10 width) :
    (padded width n).length = width := by
  have h : (ofNat n).length ≤ width := (Nat.length_toDigits_le_iff (by decide) hw).2 hn
  simp only [padded, List.length_append, List.length_replicate]
  omega

end BootClock.Numeral
