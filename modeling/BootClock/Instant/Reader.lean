import BootClock.Calendar
import BootClock.Instant
import BootClock.Text.Blank
import BootClock.Text.Numeral
/-!
# Reading an instant

The reader takes more than the printer writes: white space between the parts, one-digit months,
days, hours, minutes and seconds, years of any length after a sign, fractions of any length, and
offsets with or without a colon. It stops at the first fault in reading order. Whether the date is
one of the calendar's is asked only of a text that was read to its end.
-/

namespace BootClock.Instant

/-- Why a text is no instant. -/
inductive TextFault where
  | outOfRange
  | invalid
  | tooShort
  | tooLong
  | noInstant
  deriving DecidableEq, Repr

def TextFault.message : TextFault → String
  | .outOfRange => "input is out of range"
  | .invalid => "input contains invalid characters"
  | .tooShort => "premature end of input"
  | .tooLong => "trailing input"
  | .noInstant => "no possible date and time matching input"

namespace Reader

/-! Each part gives its value and the text after it. -/

/-- A number of at least one digit; digits beyond the first `most` are left. -/
def number (most : Nat) (s : List Char) : Except TextFault (Nat × List Char) :=
  let digits := (s.take most).takeWhile Char.isDigit
  if digits.isEmpty then .error (if s.isEmpty then .tooShort else .invalid)
  else .ok (Numeral.value digits, s.drop digits.length)

/-- The character `c`. -/
def mark (c : Char) : List Char → Except TextFault (Unit × List Char)
  | [] => .error .tooShort
  | d :: s => if d = c then .ok ((), s) else .error .invalid

/-- A number of one or two digits between `low` and `high`, after white space. -/
def field (low high : Nat) (s : List Char) : Except TextFault (Nat × List Char) := do
  let (n, s) ← number 2 (skipBlank s)
  if low ≤ n ∧ n ≤ high then .ok (n, s) else .error .outOfRange

/-- White space and a mark, and the field after it. -/
def fieldAfter (c : Char) (low high : Nat) (s : List Char) :
    Except TextFault (Nat × List Char) := do
  let ((), s) ← mark c (skipBlank s)
  field low high s

/-- A year has up to four digits, or a sign and any number of them. -/
def year (s : List Char) : Except TextFault (Int × List Char) := do
  let (n, s) ← match skipBlank s with
    | '-' :: s => (number s.length s).map fun (n, s) => (-(n : Int), s)
    | '+' :: s => (number s.length s).map fun (n, s) => ((n : Int), s)
    | s => (number 4 s).map fun (n, s) => ((n : Int), s)
  if -2147483648 ≤ n ∧ n ≤ 2147483647 then .ok (n, s) else .error .outOfRange

def date (s : List Char) : Except TextFault (Date × List Char) := do
  let (y, s) ← year s
  let (m, s) ← fieldAfter '-' 1 12 s
  let (d, s) ← fieldAfter '-' 1 31 s
  .ok (⟨y, m, d⟩, s)

/-- What stands between date and time of day. -/
def separator : List Char → Except TextFault (Unit × List Char)
  | [] => .error .tooShort
  | c :: s => if c = 'T' ∨ c = 't' ∨ c = ' ' then .ok ((), s) else .error .invalid

/-- The nanoseconds of a fraction; digits after the ninth do not count. -/
def fraction : List Char → Except TextFault (Nat × List Char)
  | '.' :: s => do
    let (n, rest) ← number 9 s
    .ok (n * Nat.pow 10 (9 - (s.length - rest.length)), rest.dropWhile Char.isDigit)
  | s => .ok (0, s)

/-- The second of the day and its nanoseconds. Second 60 is the leap half of second 59. -/
def timeOfDay (s : List Char) : Except TextFault ((Nat × Nat) × List Char) := do
  let (h, s) ← field 0 23 s
  let (m, s) ← fieldAfter ':' 0 59 s
  let (sec, s) ← fieldAfter ':' 0 60 s
  let (nanos, s) ← fraction s
  let minute := 3600 * h + 60 * m
  .ok (if sec = 60 then (minute + 59, 1000000000 + nanos) else (minute + sec, nanos), s)

/-- Exactly two digits. A single character of one byte is too short to be two. -/
def twoDigits : List Char → Except TextFault (Nat × List Char)
  | [] => .error .tooShort
  | [c] => .error (if c.toNat < 128 then .tooShort else .invalid)
  | c :: d :: s =>
    if c.isDigit ∧ d.isDigit then .ok (Numeral.value [c, d], s) else .error .invalid

/-- Hours and minutes of an offset, in seconds; colons and white space may stand between them. -/
def hoursMinutes (s : List Char) : Except TextFault (Int × List Char) := do
  let (h, s) ← twoDigits s
  let (m, s) ← twoDigits (s.dropWhile fun c => c == ':' || isBlank c)
  if m < 60 then .ok (((3600 * h + 60 * m : Nat) : Int), s) else .error .outOfRange

/-- The zone, in seconds ahead of universal time. -/
def zone (s : List Char) : Except TextFault (Int × List Char) :=
  if (s.take 3).map Char.toLower = ['u', 't', 'c'] then .ok (0, s.drop 3)
  else match s with
    | [] => .error .tooShort
    | c :: s =>
      if c = 'Z' ∨ c = 'z' then .ok (0, s)
      else if c = '+' then hoursMinutes s
      else if c = '-' ∨ c = '\u2212' then (hoursMinutes s).map fun (n, s) => (-n, s)
      else .error .invalid

/-- The instant of a date, a time of day and an offset. -/
def resolve (d : Date) (second nanos : Nat) (ahead : Int) : Except TextFault Instant :=
  if ¬ (-262143 ≤ d.year ∧ d.year ≤ 262142 ∧ d.Valid) then .error .outOfRange
  else if ¬ ahead.natAbs < 86400 then .error .outOfRange
  else match of? (d.toDays * 86400 + second - ahead) nanos with
    | some t => .ok t
    | none => .error .noInstant

end Reader

open Reader in
/-- The instant that the whole text stands for. -/
def read (s : List Char) : Except TextFault Instant := do
  let (d, s) ← date s
  let ((), s) ← separator s
  let ((second, nanos), s) ← timeOfDay s
  let (ahead, s) ← zone (skipBlank s)
  if (skipBlank s).isEmpty then resolve d second nanos ahead else .error .tooLong

end BootClock.Instant
