import BootClock.Calendar
import BootClock.Text.Numeral
import BootClock.Toml.Blank
/-!
# Dates and times of a document

A date of the calendar, a time of day, or both; only both together may have an offset from
universal time. No setting is a date or a time, so reading one says only where it ends.
-/

namespace BootClock.Toml

/-- The number of exactly `width` digits. -/
def fixed? (width : Nat) (s : List Char) : Option (Nat × List Char) :=
  let digits := s.take width
  if digits.length = width ∧ digits.all Char.isDigit then
    some (Numeral.value digits, s.drop width)
  else none

/-- The text after the character `c`. -/
def after? (c : Char) : List Char → Option (List Char)
  | [] => none
  | d :: s => if d = c then some s else none

/-- Two digits that write a number up to `most`. -/
def pair? (most : Nat) (s : List Char) : Option (List Char) := do
  let (n, s) ← fixed? 2 s
  if n ≤ most then return s else none

def date? (s : List Char) : Option (Date × List Char) := do
  let (year, s) ← fixed? 4 s
  let (month, s) ← fixed? 2 (← after? '-' s)
  let (day, s) ← fixed? 2 (← after? '-' s)
  let date : Date := ⟨year, month, day⟩
  if date.Valid then return (date, s) else none

/-- Hours, minutes and seconds, and any number of digits after a point. -/
def time? (s : List Char) : Option (List Char) := do
  let s ← pair? 23 s
  let s ← pair? 59 (← after? ':' s)
  let s ← pair? 60 (← after? ':' s)
  match s with
  | '.' :: c :: r => return if c.isDigit then r.dropWhile Char.isDigit else s
  | s => return s

/-- The text after an offset: the letter Z, or hours and minutes with a sign. -/
def offset? : List Char → Option (List Char)
  | [] => none
  | c :: s =>
    if c = 'Z' ∨ c = 'z' then some s
    else if c = '+' ∨ c = '-' then do pair? 59 (← after? ':' (← pair? 23 s))
    else none

/-- The text after a date, a time of day or both. -/
def moment? (s : List Char) : Option (List Char) :=
  match date? s with
  | none => time? s
  | some (_, s) => match s with
    | [] => some []
    | c :: r =>
      if c = 'T' ∨ c = 't' ∨ c = ' ' then
        match time? r with
        | some r => some ((offset? r).getD r)
        | none => some s
      else some s

example : moment? "1979-05-27 07:32:60.999999-07:00,".toList = some [','] := by decide +kernel

example : moment? "2023-02-29".toList = none := by decide +kernel

example : moment? "2024-02-29 #".toList = some [' ', '#'] := by decide +kernel

example : moment? "07:32".toList = none := by decide +kernel

end BootClock.Toml
