import BootClock.Instant.Reader
import BootClock.Instant.Text
import BootClock.Proofs.Digits
/-!
# Reading back the text of an instant

Every part of the text is read back from in front of whatever follows it (`number_padded`,
`year_yearText`, `date_dateText`, `timeOfDay_timeText`), so the whole text is read back to the
nanosecond as the instant that it tells (`read_write`). That is the instant it was written from,
also in a leap second at the end of a minute (`told_eq_self_iff`). Any other leap second has the text
of the second after it (`write_told`).
-/

namespace BootClock

theorem Date.Valid.day_le {d : Date} (h : d.Valid) : d.day ≤ 31 := by
  obtain ⟨-, -, -, hday⟩ := h
  unfold daysInMonth at hday
  split at hday <;> split at hday <;> omega

/-! ## Numbers of a fixed width -/

namespace Instant.Reader

open Numeral

variable {s : List Char}

theorem number_padded {width n most : Nat} (hfit : (padded width n).length ≤ most) (hs : Ends s) :
    number most (padded width n ++ s) = .ok (n, s) := by
  have hdigits : ∀ c ∈ padded width n, c.isDigit = true := fun c => isDigit_of_mem_padded
  have htaken : ((padded width n ++ s).take most).takeWhile Char.isDigit = padded width n := by
    rw [List.take_append, List.take_of_length_le hfit,
      takeWhile_isDigit_append hdigits (hs.take _)]
  have hne : (padded width n).isEmpty = false := by
    obtain ⟨c, ds, -, hd⟩ := exists_padded_eq_cons width n
    rw [hd]
    rfl
  simp only [number, htaken, hne, Bool.false_eq_true, if_false, value_padded, List.drop_left]

/-- No blank stands in front of a numeral. -/
theorem skipBlank_padded (width n : Nat) (s : List Char) :
    skipBlank (padded width n ++ s) = padded width n ++ s := by
  obtain ⟨c, ds, hc, hd⟩ := exists_padded_eq_cons width n
  rw [hd]
  exact List.dropWhile_cons_of_neg (by simp [isBlank_of_isDigit hc])

theorem field_padded {low high n : Nat} (hlow : low ≤ n) (hhigh : n ≤ high) (hn : n < 100)
    (hs : Ends s) : field low high (padded 2 n ++ s) = .ok (n, s) := by
  have hlength : (padded 2 n).length = 2 := length_padded (by decide) hn
  simp only [field, skipBlank_padded, number_padded (Nat.le_of_eq hlength) hs, bind, Except.bind,
    hlow, hhigh, and_self, if_true]

theorem fieldAfter_padded {c : Char} {low high n : Nat} (hc : isBlank c = false) (hlow : low ≤ n)
    (hhigh : n ≤ high) (hn : n < 100) (hs : Ends s) :
    fieldAfter c low high (c :: (padded 2 n ++ s)) = .ok (n, s) := by
  have hskip : skipBlank (c :: (padded 2 n ++ s)) = c :: (padded 2 n ++ s) :=
    List.dropWhile_cons_of_neg (by simp [hc])
  simp only [fieldAfter, hskip, mark, if_true, bind, Except.bind, field_padded hlow hhigh hn hs]

/-! ## Dates -/

theorem year_minus {t : List Char} {n : Nat} (hn : number t.length t = .ok (n, s))
    (hlow : n ≤ 2147483648) : year ('-' :: t) = .ok (-n, s) := by
  have hskip : skipBlank ('-' :: t) = '-' :: t := rfl
  have hrange : -2147483648 ≤ -(n : Int) ∧ -(n : Int) ≤ 2147483647 := by omega
  simp only [year, hskip, hn, Except.map, bind, Except.bind, hrange, and_self, if_true]

theorem year_plus {t : List Char} {n : Nat} (hn : number t.length t = .ok (n, s))
    (hhigh : n ≤ 2147483647) : year ('+' :: t) = .ok (n, s) := by
  have hskip : skipBlank ('+' :: t) = '+' :: t := rfl
  have hrange : -2147483648 ≤ (n : Int) ∧ (n : Int) ≤ 2147483647 := by omega
  simp only [year, hskip, hn, Except.map, bind, Except.bind, hrange, and_self, if_true]

theorem year_padded {n : Nat} (hn : n < 10000) (hs : Ends s) :
    year (padded 4 n ++ s) = .ok (n, s) := by
  have hlength : (padded 4 n).length = 4 := length_padded (by decide) hn
  have hnumber := number_padded (Nat.le_of_eq hlength) hs
  have hrange : -2147483648 ≤ (n : Int) ∧ (n : Int) ≤ 2147483647 := by omega
  obtain ⟨c, ds, hc, hd⟩ := exists_padded_eq_cons 4 n
  rw [year, skipBlank_padded]
  rw [hd, List.cons_append] at hnumber ⊢
  -- A digit is neither of the signs.
  split
  · next heq => cases heq; cases hc
  · next heq => cases heq; cases hc
  · simp only [hnumber, Except.map, bind, Except.bind, hrange, and_self, if_true]

theorem year_yearText {y : Int} (hlow : -2147483648 ≤ y) (hhigh : y ≤ 2147483647) (hs : Ends s) :
    year (yearText y ++ s) = .ok (y, s) := by
  have hnumber : number (padded 4 y.natAbs ++ s).length (padded 4 y.natAbs ++ s) =
      .ok (y.natAbs, s) := number_padded (by simp) hs
  unfold yearText
  split
  · rw [year_padded (by omega) hs, Int.natAbs_of_nonneg (by omega)]
  · split
    · rw [List.cons_append, year_minus hnumber (by omega)]
      congr
      omega
    · rw [List.cons_append, year_plus hnumber (by omega), Int.natAbs_of_nonneg (by omega)]

theorem date_dateText {d : Date} (hd : d.Valid) (hlow : -2147483648 ≤ d.year)
    (hhigh : d.year ≤ 2147483647) (hs : Ends s) : date (dateText d ++ s) = .ok (d, s) := by
  have hday' := hd.day_le
  obtain ⟨hmonth, hmonth', hday, -⟩ := hd
  have hyear := year_yearText hlow hhigh
    (show Ends ('-' :: (padded 2 d.month ++ '-' :: (padded 2 d.day ++ s))) from rfl)
  have hrest := fieldAfter_padded (c := '-') rfl hmonth hmonth' (by omega)
    (show Ends ('-' :: (padded 2 d.day ++ s)) from rfl)
  have hlast := fieldAfter_padded (c := '-') rfl hday hday' (by omega) hs
  simp only [dateText, List.append_assoc, List.cons_append, date, hyear, hrest, hlast, bind,
    Except.bind]

/-! ## Times of day -/

theorem fraction_padded {width n : Nat} (hw : 0 < width) (hw' : width ≤ 9)
    (hn : n < Nat.pow 10 width) (hs : Ends s) :
    fraction ('.' :: (padded width n ++ s)) = .ok (n * Nat.pow 10 (9 - width), s) := by
  have hlength : (padded width n).length = width := length_padded hw hn
  have hdropped : (padded width n ++ s).length - s.length = width := by
    rw [List.length_append, hlength]
    omega
  simp only [fraction, number_padded (hlength ▸ hw') hs, bind, Except.bind, hdropped,
    hs.dropWhile_eq_self]

/-- What follows a time of day: neither a digit nor a point. -/
def EndsTime (s : List Char) : Prop := Ends s ∧ s.head? ≠ some '.'

theorem fraction_fractionText {n : Nat} (hn : n < 1000000000) (hend : EndsTime s) :
    fraction (fractionText n ++ s) = .ok (n, s) := by
  obtain ⟨hs, hpoint⟩ := hend
  have hmillis : Nat.pow 10 (9 - 3) = 1000000 := rfl
  have hmicros : Nat.pow 10 (9 - 6) = 1000 := rfl
  have hnanos : Nat.pow 10 (9 - 9) = 1 := rfl
  unfold fractionText
  split
  · next hzero =>
    rw [hzero, List.nil_append, fraction]
    rintro t rfl
    exact hpoint rfl
  · split
    · rw [List.cons_append,
        fraction_padded (by decide) (by decide) (show n / 1000000 < 1000 by omega) hs, hmillis]
      congr
      omega
    · split
      · rw [List.cons_append,
          fraction_padded (by decide) (by decide) (show n / 1000 < 1000000 by omega) hs, hmicros]
        congr
        omega
      · rw [List.cons_append, fraction_padded (by decide) (by decide) hn hs, hnanos, Nat.mul_one]

/-- The text goes on after the seconds with a fraction or with the zone. -/
theorem ends_fractionText (n : Nat) (hs : Ends s) : Ends (fractionText n ++ s) := by
  unfold fractionText
  split
  · exact hs
  · repeat' split
    all_goals rfl

theorem timeOfDay_parts {hour minute second nanos : Nat} (hhour : hour ≤ 23) (hminute : minute ≤ 59)
    (hsecond : second ≤ 60) (hnanos : nanos < 1000000000) (hs : EndsTime s) :
    timeOfDay (padded 2 hour ++ ':' :: (padded 2 minute ++ ':' :: (padded 2 second ++
        (fractionText nanos ++ s)))) =
      .ok (if second = 60 then (3600 * hour + 60 * minute + 59, 1000000000 + nanos)
        else (3600 * hour + 60 * minute + second, nanos), s) := by
  have hafter := ends_fractionText nanos hs.1
  have hhours := field_padded (Nat.zero_le hour) hhour (by omega)
    (show Ends (':' :: (padded 2 minute ++ ':' :: (padded 2 second ++
      (fractionText nanos ++ s)))) from rfl)
  have hminutes := fieldAfter_padded (c := ':') rfl (Nat.zero_le minute) hminute (by omega)
    (show Ends (':' :: (padded 2 second ++ (fractionText nanos ++ s))) from rfl)
  have hseconds := fieldAfter_padded (c := ':') rfl (Nat.zero_le second) hsecond (by omega) hafter
  simp only [timeOfDay, hhours, hminutes, hseconds, fraction_fractionText hnanos hs, bind,
    Except.bind]

/-- A leap second at the end of a minute is told by its second 60, and read in the second before. -/
theorem timeOfDay_timeText {second nanos : Nat} (hsecond : second < 86400)
    (hnanos : nanos < 2000000000) (hleap : 1000000000 ≤ nanos → second % 60 = 59)
    (hs : EndsTime s) : timeOfDay (timeText second nanos ++ s) = .ok ((second, nanos), s) := by
  simp only [timeText, List.append_assoc, List.cons_append]
  by_cases h : 1000000000 ≤ nanos
  · have h59 := hleap h
    rw [if_pos h, timeOfDay_parts (by omega) (by omega) (by omega) (by omega) hs,
      if_pos (by omega)]
    congr <;> omega
  · rw [if_neg h, timeOfDay_parts (by omega) (by omega) (by omega) (by omega) hs,
      if_neg (by omega)]
    congr <;> omega

/-- Elsewhere in a minute a leap second is written like the second after it. -/
theorem timeText_succ {second nanos : Nat} (hsecond : second % 60 ≠ 59)
    (hleap : 1000000000 ≤ nanos) (hnanos : nanos < 2000000000) :
    timeText (second + 1) (nanos - 1000000000) = timeText second nanos := by
  have hhour : (second + 1) / 3600 = second / 3600 := by omega
  have hminute : (second + 1) / 60 = second / 60 := by omega
  have hsecond' : (second + 1) % 60 + 0 = second % 60 + 1 := by omega
  have hnanos' : (nanos - 1000000000) % 1000000000 = nanos % 1000000000 := by omega
  have hordinary : ¬ 1000000000 ≤ nanos - 1000000000 := by omega
  simp only [timeText, if_pos hleap, if_neg hordinary, hhour, hminute, hsecond', hnanos']

end Instant.Reader

/-! ## Whole texts -/

/-- Between the first and the last instant lie the years there are. -/
theorem Date.Valid.year_mem {d : Date} (hd : d.Valid)
    (hfirst : Instant.firstSecond ≤ d.toDays * 86400 + 86399)
    (hlast : d.toDays * 86400 ≤ Instant.lastSecond) : -262143 ≤ d.year ∧ d.year ≤ 262142 := by
  have hday := hd.day_le
  obtain ⟨hmonth, hmonth', hday', -⟩ := hd
  unfold Instant.firstSecond at hfirst
  unfold Instant.lastSecond at hlast
  unfold toDays daysBefore epoch at hfirst hlast
  -- Only the two years next to those there are come near their ends.
  have hyears : d.year ≤ -262145 ∨ d.year = -262144 ∨ d.year = 262143 ∨ 262144 ≤ d.year ∨
      (-262143 ≤ d.year ∧ d.year ≤ 262142) := by omega
  by_cases hm : d.month ≤ 2
  · simp only [hm, if_true] at hfirst hlast
    omega
  · simp only [hm, if_false] at hfirst hlast
    omega

namespace Instant

open Numeral Reader

theorem year_mem (t : Instant) : -262143 ≤ (Date.ofDays (t.secs / 86400)).year ∧
    (Date.ofDays (t.secs / 86400)).year ≤ 262142 := by
  have hfirst := t.first_le
  have hlast := t.le_last
  have hdays := Date.toDays_ofDays (t.secs / 86400)
  exact (Date.valid_ofDays _).year_mem (by omega) (by omega)

theorem resolve_ofDays (t : Instant) :
    resolve (Date.ofDays (t.secs / 86400)) (t.secs % 86400).toNat t.nanos 0 = .ok t := by
  have hyear := t.year_mem
  have hvalid := Date.valid_ofDays (t.secs / 86400)
  have hsecs :
      (Date.ofDays (t.secs / 86400)).toDays * 86400 + (t.secs % 86400).toNat - 0 = t.secs := by
    rw [Date.toDays_ofDays]
    omega
  simp only [resolve, hyear, hvalid, and_self, not_true_eq_false, if_false, hsecs, of?_secs_nanos,
    Int.natAbs_zero, Nat.reduceLT]

/-- Every part fits: it is a date of the calendar, and a second of the day. -/
theorem write?_eq_write (zone : Zone) (t : Instant) : t.write? zone = some (t.write zone) := by
  have hvalid := Date.valid_ofDays ((t.secs + zone.ahead) / 86400)
  have hday := hvalid.day_le
  obtain ⟨-, hmonth, -, -⟩ := hvalid
  have hfits : ∀ n, n < 100 → twoDigits? n = some (Numeral.padded 2 n) := fun n h => if_pos h
  have hleap : (if 1000000000 ≤ t.nanos then 1 else 0) ≤ 1 := by split <;> decide
  simp only [write?]
  rw [hfits _ (by omega), hfits _ (by omega), hfits _ (by omega), hfits _ (by omega),
    hfits _ (by omega)]
  simp [write, dateText, timeText]

/-- If the instant is in a leap second, that is one at the end of a minute. -/
def Regular (t : Instant) : Prop := 1000000000 ≤ t.nanos → t.secs % 60 = 59

instance (t : Instant) : Decidable t.Regular := inferInstanceAs (Decidable (_ → _))

/-- The last second there is ends a minute, so there is one after every other leap second. -/
theorem succ_le_last {t : Instant} (h : ¬ t.Regular) : t.secs + 1 ≤ lastSecond := by
  have hlast := t.le_last
  unfold Regular at h
  unfold lastSecond at *
  omega

/-- The instant that the text of an instant tells. -/
def told (t : Instant) : Instant :=
  if h : t.Regular then t
  else ⟨t.secs + 1, t.nanos - 1000000000, Int.le_add_one t.first_le, succ_le_last h,
    Nat.lt_of_le_of_lt (Nat.sub_le ..) t.nanos_lt⟩

theorem told_eq_self_iff {t : Instant} : t.told = t ↔ t.Regular := by
  unfold told
  split
  · next h => exact iff_of_true rfl h
  · next h =>
    refine iff_of_false (fun heq => ?_) h
    have hsecs : t.secs + 1 = t.secs := congrArg secs heq
    omega

theorem regular_told (t : Instant) : t.told.Regular := by
  unfold told
  split
  · assumption
  · intro hleap
    have hbound := t.nanos_lt
    dsimp only at hleap
    omega

theorem write_told (zone : Zone) (t : Instant) : t.told.write zone = t.write zone := by
  by_cases h : t.Regular
  · rw [told_eq_self_iff.2 h]
  · have hbound := t.nanos_lt
    -- the seconds of a minute are the same in every zone
    have hminute : zone.ahead % 60 = 0 := by
      cases zone with
      | zulu => rfl
      | offset m => exact Int.mul_emod_right 60 m
    simp only [told, dif_neg h]
    unfold Regular at h
    have hdate : (t.secs + 1 + zone.ahead) / 86400 = (t.secs + zone.ahead) / 86400 := by omega
    have hsecond : ((t.secs + 1 + zone.ahead) % 86400).toNat =
        ((t.secs + zone.ahead) % 86400).toNat + 1 := by omega
    simp only [write, hdate, hsecond]
    rw [timeText_succ (by omega) (by omega) hbound]

/-- The two ways to write that a time is universal time. -/
def Zone.Universal (zone : Zone) : Prop := zone = .zulu ∨ zone = .offset 0

theorem read_write_of_regular {t : Instant} {zone : Zone} (hz : zone.Universal) (h : t.Regular) :
    read (t.write zone) = .ok t := by
  have hyear := t.year_mem
  have hahead : zone.ahead = 0 := by rcases hz with rfl | rfl <;> rfl
  have hzone : Reader.zone (skipBlank zone.text) = .ok (0, []) := by rcases hz with rfl | rfl <;> rfl
  have hends : EndsTime zone.text := by
    rcases hz with rfl | rfl
    all_goals exact ⟨rfl, by decide⟩
  have hdate := date_dateText (Date.valid_ofDays (t.secs / 86400)) (by omega) (by omega)
    (show Ends ('T' :: (timeText (t.secs % 86400).toNat t.nanos ++ zone.text)) from rfl)
  have htime := timeOfDay_timeText (show (t.secs % 86400).toNat < 86400 by omega) t.nanos_lt
    (fun hleap => by have := h hleap; omega) hends
  simp only [Instant.write, hahead, Int.add_zero, List.append_assoc, List.cons_append, read, hdate,
    separator, true_or, if_true, htime, hzone, bind, Except.bind, resolve_ofDays]
  rfl

theorem read_write (t : Instant) {zone : Zone} (hz : zone.Universal) :
    read (t.write zone) = .ok t.told := by
  rw [← write_told, read_write_of_regular hz t.regular_told]

end Instant

end BootClock
