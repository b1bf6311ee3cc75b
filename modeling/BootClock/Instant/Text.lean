import BootClock.Calendar
import BootClock.Instant
import BootClock.Text.Numeral
/-!
# The text of an instant

Date, `T`, time of day and zone: `2024-02-29T23:59:60.500Z`. The fraction has the fewest of 0, 3, 6
and 9 digits that are exact. Years outside 0 to 9999 carry a sign and at least four digits. Only a
leap second at the end of a minute has second 60; any other has the text of the second after it.
-/

namespace BootClock.Instant

/-- How the zone is written: as the letter for universal time, or as an offset in minutes. -/
inductive Zone where
  | zulu
  | offset (minutes : Int)
  deriving DecidableEq, Repr

/-- Seconds that clocks of the zone are ahead of universal time. -/
def Zone.ahead : Zone → Int
  | .zulu => 0
  | .offset m => 60 * m

def Zone.text : Zone → List Char
  | .zulu => ['Z']
  | .offset m =>
    (if m < 0 then '-' else '+') :: Numeral.padded 2 (m.natAbs / 60) ++
      ':' :: Numeral.padded 2 (m.natAbs % 60)

def yearText (year : Int) : List Char :=
  if 0 ≤ year ∧ year ≤ 9999 then Numeral.padded 4 year.natAbs
  else (if year < 0 then '-' else '+') :: Numeral.padded 4 year.natAbs

def dateText (d : Date) : List Char :=
  yearText d.year ++ '-' :: Numeral.padded 2 d.month ++ '-' :: Numeral.padded 2 d.day

/-- The point and the digits after the seconds; nothing for a whole second. -/
def fractionText (nanos : Nat) : List Char :=
  if nanos = 0 then []
  else if nanos % 1000000 = 0 then '.' :: Numeral.padded 3 (nanos / 1000000)
  else if nanos % 1000 = 0 then '.' :: Numeral.padded 6 (nanos / 1000)
  else '.' :: Numeral.padded 9 nanos

/-- Hours, minutes and seconds of a second of the day; a leap second is written as one second more. -/
def timeText (second nanos : Nat) : List Char :=
  let leap := if 1000000000 ≤ nanos then 1 else 0
  Numeral.padded 2 (second / 3600) ++ ':' :: Numeral.padded 2 (second / 60 % 60) ++
    ':' :: Numeral.padded 2 (second % 60 + leap) ++ fractionText (nanos % 1000000000)

/-- Date and time of day in the zone, and the zone. -/
def write (zone : Zone) (t : Instant) : List Char :=
  let shifted := t.secs + zone.ahead
  dateText (Date.ofDays (shifted / 86400)) ++
    'T' :: timeText (shifted % 86400).toNat t.nanos ++ zone.text

def text (zone : Zone) (t : Instant) : String := String.ofList (t.write zone)

/-- A number in two digits; one that needs more has no such text. -/
def twoDigits? (n : Nat) : Option (List Char) :=
  if n < 100 then some (Numeral.padded 2 n) else none

/-- The same as `write`, if every number that is to be written in two digits fits them. -/
def write? (zone : Zone) (t : Instant) : Option (List Char) := do
  let shifted := t.secs + zone.ahead
  let date := Date.ofDays (shifted / 86400)
  let second := (shifted % 86400).toNat
  let leap := if 1000000000 ≤ t.nanos then 1 else 0
  let month ← twoDigits? date.month
  let day ← twoDigits? date.day
  let hours ← twoDigits? (second / 3600)
  let minutes ← twoDigits? (second / 60 % 60)
  let seconds ← twoDigits? (second % 60 + leap)
  return yearText date.year ++ '-' :: month ++ '-' :: day ++ 'T' ::
    (hours ++ ':' :: minutes ++ ':' :: seconds ++ fractionText (t.nanos % 1000000000)) ++ zone.text

example : (of? 1709251199 1500000000).map (write .zulu) =
    some "2024-02-29T23:59:60.500Z".toList := by decide +kernel

example : (of? 4 1333333333).map (write .zulu) = some "1970-01-01T00:00:05.333333333Z".toList := by
  decide +kernel

example : (of? (-62167219201) 1000).map (write (.offset 345)) =
    some "0000-01-01T05:44:59.000001+05:45".toList := by decide +kernel

end BootClock.Instant
