/-!
# Days of the proleptic Gregorian calendar

A day is counted from 1970-01-01. Years are counted from March, so that the leap day is the last of
its year; the count then splits into eras of 400 years, centuries, spans of four years and years.
`toDays_ofDays` says that the date of a day leads back to it, and `valid_ofDays` that it is a date
of the calendar.
-/

namespace BootClock

/-- A calendar date. Year 0 is the year before year 1. -/
structure Date where
  year : Int
  month : Nat
  day : Nat
  deriving DecidableEq, Repr

namespace Date

def isLeapYear (year : Int) : Bool := year % 4 == 0 && (year % 100 != 0 || year % 400 == 0)

def daysInMonth (year : Int) (month : Nat) : Nat :=
  if month = 2 then (if isLeapYear year then 29 else 28)
  else if month = 4 ∨ month = 6 ∨ month = 9 ∨ month = 11 then 30
  else 31

/-- The date is one of the calendar's. -/
def Valid (d : Date) : Prop :=
  1 ≤ d.month ∧ d.month ≤ 12 ∧ 1 ≤ d.day ∧ d.day ≤ daysInMonth d.year d.month

instance (d : Date) : Decidable d.Valid := inferInstanceAs (Decidable (_ ∧ _))

/-- Days from 0000-03-01 to 1970-01-01. -/
def epoch : Int := 719468

/-- Days from the first of March to the first of the month that is `m` months after March. -/
def daysBefore (m : Int) : Int := (153 * m + 2) / 5

/-- Days from 1970-01-01 to the date. -/
def toDays (d : Date) : Int :=
  let y : Int := if d.month ≤ 2 then d.year - 1 else d.year
  let m : Int := if d.month ≤ 2 then (d.month : Int) + 9 else (d.month : Int) - 3
  365 * y + y / 4 - y / 100 + y / 400 + daysBefore m + ((d.day : Int) - 1) - epoch

/-- The date that lies so many days after 1970-01-01. -/
def ofDays (n : Int) : Date :=
  let z := n + epoch
  let era := z / 146097
  let inEra := z % 146097
  let century := min (inEra / 36524) 3
  let inCentury := inEra - 36524 * century
  let four := inCentury / 1461
  let inFour := inCentury % 1461
  let single := min (inFour / 365) 3
  let inYear := inFour - 365 * single
  let m := (5 * inYear + 2) / 153
  let y := 400 * era + 100 * century + 4 * four + single
  { year := if m < 10 then y else y + 1
    month := (if m < 10 then m + 3 else m - 9).toNat
    day := (inYear - daysBefore m + 1).toNat }

/-- A day number taken apart: era, century, span of four years, year and day of the year, and the
date they make. -/
theorem exists_parts (n : Int) : ∃ era c q s r m : Int,
    (0 ≤ c ∧ c ≤ 3) ∧ (0 ≤ q ∧ q ≤ 24) ∧ (0 ≤ s ∧ s ≤ 3) ∧ (0 ≤ r ∧ r ≤ 365) ∧
    (r = 365 → s = 3 ∧ (q = 24 → c = 3)) ∧ m = (5 * r + 2) / 153 ∧
    n + epoch = 146097 * era + 36524 * c + 1461 * q + 365 * s + r ∧
    ofDays n =
      { year := if m < 10 then 400 * era + 100 * c + 4 * q + s
                else 400 * era + 100 * c + 4 * q + s + 1
        month := (if m < 10 then m + 3 else m - 9).toNat
        day := (r - daysBefore m + 1).toNat } := by
  let z := n + epoch
  let c := min (z % 146097 / 36524) 3
  let i := z % 146097 - 36524 * c
  let s := min (i % 1461 / 365) 3
  refine ⟨z / 146097, c, i / 1461, s, i % 1461 - 365 * s, _, ?_, ?_, ?_, ?_, ?_, rfl, ?_, rfl⟩
  all_goals omega

theorem toDays_ofDays (n : Int) : (ofDays n).toDays = n := by
  obtain ⟨era, c, q, s, r, m, hc, hq, hs, hr, -, hm, hn, h⟩ := exists_parts n
  have hm' : 0 ≤ m ∧ m ≤ 11 := by omega
  have hd : 0 ≤ r - daysBefore m := by unfold daysBefore; omega
  have hy4 : (400 * era + 100 * c + 4 * q + s) / 4 = 100 * era + 25 * c + q := by omega
  have hy100 : (400 * era + 100 * c + 4 * q + s) / 100 = 4 * era + c := by omega
  have hy400 : (400 * era + 100 * c + 4 * q + s) / 400 = era := by omega
  rw [h, toDays]
  by_cases hlt : m < 10
  · have hmo : ((m + 3).toNat : Int) - 3 = m := by omega
    have hgt : ¬ (m + 3).toNat ≤ 2 := by omega
    simp only [hlt, if_true, hgt, if_false, hmo, hy4, hy100, hy400]
    omega
  · have hmo : ((m - 9).toNat : Int) + 9 = m := by omega
    have hle : (m - 9).toNat ≤ 2 := by omega
    simp only [hlt, if_false, hle, if_true, hmo, Int.add_sub_cancel, hy4, hy100, hy400]
    omega

theorem valid_ofDays (n : Int) : (ofDays n).Valid := by
  obtain ⟨era, c, q, s, r, m, hc, hq, hs, hr, hleap, hm, -, h⟩ := exists_parts n
  have hm' : 0 ≤ m ∧ m ≤ 11 := by omega
  have hd : 0 ≤ r - daysBefore m := by unfold daysBefore; omega
  have hleap' : r = 365 → isLeapYear (400 * era + 100 * c + 4 * q + s + 1) = true := by
    intro h365
    obtain ⟨rfl, h24⟩ := hleap h365
    unfold isLeapYear
    by_cases hq24 : q = 24
    · have := h24 hq24
      have e1 : (400 * era + 100 * c + 4 * q + 3 + 1) % 4 = 0 := by omega
      have e2 : (400 * era + 100 * c + 4 * q + 3 + 1) % 400 = 0 := by omega
      simp [e1, e2]
    · have e1 : (400 * era + 100 * c + 4 * q + 3 + 1) % 4 = 0 := by omega
      have e2 : (400 * era + 100 * c + 4 * q + 3 + 1) % 100 ≠ 0 := by omega
      simp [e1, e2]
  rw [h]
  unfold Valid daysInMonth
  have hcases : m = 0 ∨ m = 1 ∨ m = 2 ∨ m = 3 ∨ m = 4 ∨ m = 5 ∨ m = 6 ∨ m = 7 ∨ m = 8 ∨ m = 9 ∨
      m = 10 ∨ m = 11 := by omega
  rcases hcases with rfl | rfl | rfl | rfl | rfl | rfl | rfl | rfl | rfl | rfl | rfl | rfl
  all_goals try (simp [daysBefore]; omega)
  by_cases h365 : r = 365
  · simp [daysBefore, hleap' h365, h365]
  · simp only [daysBefore, Int.reduceLT, if_false]
    refine ⟨by decide, by decide, by omega, ?_⟩
    simp only [Int.reduceSub, Int.reduceToNat, if_true]
    split <;> omega

end Date

end BootClock
