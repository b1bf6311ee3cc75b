/-!
# Saturating arithmetic on 64-bit counts

Every count the clock keeps is an `Int64`. Sums and differences are taken in the integers and then
brought back to the nearest count (`clamp`), so a result that fits is exact (`toInt_add_of_fits`,
`toInt_sub_of_fits`) and one that does not stops at the end it ran into.
-/

namespace BootClock

/-- The integer `n` is a 64-bit count. -/
def Fits (n : Int) : Prop := -9223372036854775808 ≤ n ∧ n ≤ 9223372036854775807

instance (n : Int) : Decidable (Fits n) := inferInstanceAs (Decidable (_ ∧ _))

theorem fits_toInt (a : Int64) : Fits a.toInt := by
  have h1 := a.le_toInt
  have h2 := a.toInt_lt
  exact ⟨by omega, by omega⟩

/-- The count nearest to `n`. -/
def clamp (n : Int) : Int64 := .ofInt (max (-9223372036854775808) (min n 9223372036854775807))

theorem toInt_clamp (n : Int) :
    (clamp n).toInt = max (-9223372036854775808) (min n 9223372036854775807) :=
  Int64.toInt_ofInt_of_le (by omega) (by omega)

theorem toInt_clamp_of_fits {n : Int} (h : Fits n) : (clamp n).toInt = n := by
  have := toInt_clamp n
  unfold Fits at h
  omega

/-- The count `n` itself, or nothing if it is out of range. -/
def count? (n : Int) : Option Int64 := if Fits n then some (clamp n) else none

theorem toInt_of_count? {n : Int} {a : Int64} (h : count? n = some a) : a.toInt = n := by
  unfold count? at h
  split at h
  · next hn => cases h; exact toInt_clamp_of_fits hn
  · cases h

theorem count?_toInt (a : Int64) : count? a.toInt = some a := by
  have h := fits_toInt a
  simp only [count?, h, if_true, Option.some.injEq]
  exact Int64.toInt_inj.1 (toInt_clamp_of_fits h)

namespace Saturating

def add (a b : Int64) : Int64 := clamp (a.toInt + b.toInt)

def sub (a b : Int64) : Int64 := clamp (a.toInt - b.toInt)

/-- The magnitude of `a`; that of the lowest count is one too large and stops at the highest. -/
def abs (a : Int64) : Int64 := clamp a.toInt.natAbs

theorem toInt_add_of_fits {a b : Int64} (h : Fits (a.toInt + b.toInt)) :
    (add a b).toInt = a.toInt + b.toInt := toInt_clamp_of_fits h

theorem toInt_sub_of_fits {a b : Int64} (h : Fits (a.toInt - b.toInt)) :
    (sub a b).toInt = a.toInt - b.toInt := toInt_clamp_of_fits h

theorem toInt_abs (a : Int64) : (abs a).toInt = min a.toInt.natAbs 9223372036854775807 := by
  have := toInt_clamp a.toInt.natAbs
  unfold abs
  omega

/-- The magnitude of a difference stops once, at the highest count. -/
theorem toInt_abs_sub (a b : Int64) :
    (abs (sub a b)).toInt = min (a.toInt - b.toInt).natAbs 9223372036854775807 := by
  have habs := toInt_abs (sub a b)
  have hsub : (sub a b).toInt = _ := toInt_clamp (a.toInt - b.toInt)
  omega

end Saturating

end BootClock
