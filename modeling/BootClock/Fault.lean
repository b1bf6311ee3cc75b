import BootClock.SystemError
/-!
# Why an uptime is unknown

The causes, their wording, and the number that stands for all of them where only a number can be
answered.
-/

namespace BootClock

/-- Why an uptime could not be produced. -/
inductive Fault where
  /-- Asking the kernel failed. -/
  | query (cause : SystemError)
  /-- The kernel has no boot time to ask for. -/
  | unsupported
  /-- The kernel answered zero: it never recorded its boot time. -/
  | bootTimeUnset
  /-- The kernel answered a time before 1970. -/
  | bootTimeNegative (secs : Int64)
  /-- The wall clock is behind the boot time. -/
  | clockBeforeBoot (now boot : Int64)
  /-- The milliseconds since boot are no 64-bit count. -/
  | overflow
  deriving DecidableEq

namespace Fault

def message : Fault → String
  | query cause => "kernel boot time query failed: " ++ cause.message
  | unsupported => "kernel boot time query is not supported on this platform"
  | bootTimeUnset => "kernel reported an unset boot time"
  | bootTimeNegative n => "kernel reported a negative boot time: " ++ Numeral.intText n.toInt
  | clockBeforeBoot now boot =>
    "wall clock (" ++ Numeral.intText now.toInt ++ ") is earlier than boot time (" ++
      Numeral.intText boot.toInt ++ ")"
  | overflow => "uptime does not fit in a millisecond count"

/-- The failure underneath, if there is one. -/
def cause : Fault → Option SystemError
  | query cause => some cause
  | _ => none

end Fault

/-- Stands for an unknown uptime where only a number can be answered. -/
def unknownUptime : Int64 := -1

end BootClock
