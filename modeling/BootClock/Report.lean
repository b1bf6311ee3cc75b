import BootClock.Instant.Text
import BootClock.Uptime
/-!
# Reports

A report is what is shown of one look at the device: the uptime, in numbers and in words, the boot
time, and the clock reading that both were computed from. As a value that can be read back from a
text it may hold any numbers; `Report.of` makes one whose fields belong together.
-/

namespace BootClock

structure Report where
  /-- Milliseconds since boot. -/
  millis : Int64
  /-- Whole seconds since boot. -/
  seconds : Int64
  /-- The whole seconds in words. -/
  human : String
  /-- The second of the boot, counted from 1970. -/
  boot : Int64
  /-- The clock reading. -/
  sampledAt : Instant
  deriving DecidableEq

namespace Report

def of (uptime : Uptime) (boot : BootTime) (sampledAt : Instant) : Report :=
  { millis := uptime.millis
    seconds := uptime.seconds
    human := uptime.human
    boot := boot.secs
    sampledAt := sampledAt }

/-- The report for a reader, in three lines. -/
def lines (r : Report) : String :=
  "Uptime:    " ++ r.human ++ " (" ++ Numeral.intText r.millis.toInt ++ " ms)\n" ++
    "Boot time: " ++ Numeral.intText r.boot.toInt ++ "\n" ++
    "Sampled:   " ++ r.sampledAt.text (.offset 0) ++ "\n"

end Report

end BootClock
