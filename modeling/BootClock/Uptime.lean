import BootClock.BootTime
import BootClock.Saturating
/-!
# Uptimes

The time since boot is a number of milliseconds that is never negative. `Uptime.since` is exact: it
is a thousand times the seconds between boot and now, and fails only where that number is negative
or no 64-bit count.

`Uptime.human` writes the whole seconds as days, hours, minutes and seconds, leaving out what is
zero.
-/

namespace BootClock

/-- Milliseconds since boot. -/
structure Uptime where
  millis : Int64
  nonneg : 0 ≤ millis.toInt
  deriving DecidableEq

namespace Uptime

def ofMillis? (millis : Int64) : Option Uptime :=
  if h : 0 ≤ millis.toInt then some ⟨millis, h⟩ else none

theorem ofMillis?_eq_some_iff {m : Int64} {u : Uptime} : ofMillis? m = some u ↔ u.millis = m := by
  unfold ofMillis?
  constructor
  · intro h
    split at h
    · cases h; rfl
    · cases h
  · rintro rfl
    simp [u.nonneg]

/-- Whole seconds. -/
def seconds (u : Uptime) : Int64 := clamp (u.millis.toInt / 1000)

theorem toInt_seconds (u : Uptime) : u.seconds.toInt = u.millis.toInt / 1000 := by
  have h := fits_toInt u.millis
  have h0 := u.nonneg
  unfold Fits at h
  exact toInt_clamp_of_fits ⟨by omega, by omega⟩

/-- Whole seconds and nanoseconds below a second. -/
def duration (u : Uptime) : Nat × Nat :=
  (u.millis.toInt.toNat / 1000, u.millis.toInt.toNat % 1000 * 1000000)

/-- The uptime at second `now` of a device started at `boot`. -/
def since (boot : BootTime) (now : Int64) : Except Fault Uptime :=
  if now.toInt < boot.secs.toInt then .error (.clockBeforeBoot now boot.secs)
  else match count? ((now.toInt - boot.secs.toInt) * 1000) with
    | none => .error .overflow
    | some millis => match ofMillis? millis with
      | some u => .ok u
      | none => .error .overflow

/-- The number for callers that take nothing else: the milliseconds, or `unknownUptime`. -/
def sentinel : Except Fault Uptime → Int64
  | .ok u => u.millis
  | .error _ => unknownUptime

/-! ## Days, hours, minutes, seconds -/

/-- A unit that an uptime is told in. -/
inductive TimeUnit where
  | day
  | hour
  | minute
  | second
  deriving DecidableEq, Repr

namespace TimeUnit

/-- The unit's length in seconds. -/
def length : TimeUnit → Nat
  | day => 86400
  | hour => 3600
  | minute => 60
  | second => 1

def name : TimeUnit → List Char
  | day => ['d', 'a', 'y']
  | hour => ['h', 'o', 'u', 'r']
  | minute => ['m', 'i', 'n', 'u', 't', 'e']
  | second => ['s', 'e', 'c', 'o', 'n', 'd']

end TimeUnit

/-- A count of one unit. -/
structure Part where
  count : Nat
  unit : TimeUnit
  deriving DecidableEq, Repr

/-- `1 day`, `2 days`. -/
def Part.write (p : Part) : List Char :=
  Numeral.ofNat p.count ++ ' ' :: p.unit.name ++ (if p.count = 1 then [] else ['s'])

/-- The units that a number of seconds has any of, the longest first; no time at all is told in
seconds. -/
def parts (secs : Nat) : List Part :=
  let all : List Part := [⟨secs / 86400, .day⟩, ⟨secs % 86400 / 3600, .hour⟩,
    ⟨secs % 3600 / 60, .minute⟩, ⟨secs % 60, .second⟩]
  if secs = 0 then [⟨0, .second⟩] else all.filter fun p => p.count ≠ 0

/-- The parts of a number of seconds, separated by commas. -/
def writeSeconds (secs : Nat) : List Char :=
  List.intercalate [',', ' '] ((parts secs).map Part.write)

def human (u : Uptime) : String := String.ofList (writeSeconds u.seconds.toInt.toNat)

example : writeSeconds 93784 = "1 day, 2 hours, 3 minutes, 4 seconds".toList := by decide +kernel

example : writeSeconds 0 = "0 seconds".toList := by decide +kernel

end Uptime

end BootClock
