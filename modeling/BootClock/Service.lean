import BootClock.Query
import BootClock.Settings
/-!
# The corrected clock

The clock answers the device's time plus a correction of three parts:

* `anchor - boot`, the boot time the correction was last zero at, less the latest one known. When
  the wall clock is set by hand the boot time moves along, so the difference cancels the change;
* `serverOffset`, how far a server's time was ahead of the device's when it was taken over;
* `forward`, time added on purpose, never below zero.

Everything is counted in milliseconds, and sums stop at the ends of 64-bit counts. Each operation
is a function of the readings it is given (`learn`, `refreshed`, `corrected`, `measure`, `applied`),
and a probe that makes those readings and no others.

| operation | here |
| --- | --- |
| `new` | `start` |
| `refresh`, `update_actual_boot_time` | `refresh`, `updateUptime` |
| `current_utc`, `remaining_until` | `current`, `remaining` |
| `current_local`, `local_time` | `current` and `uncorrected`, told in a zone (`Instant.text`) |
| `synchronize_with_server` | `synchronize` |
| `on_synchronized` | `listen` |
| `is_synchronized`, `server_offset` | `synchronized`, `offset` |
| `add_forward_time`, `reset_forward_time` | `addForward`, `resetForward` |
| `since_start_secs` | `sinceStart`, in whole nanoseconds |

A listener is a name, and to call it is to list it (`Synchronization.fired`); what it does is left out.
-/

namespace BootClock

/-- What stops a question to the clock: the lowest count of milliseconds is no span of time. -/
inductive ClockFault where
  | noSuchSpan
  deriving DecidableEq, Repr

def ClockFault.message : ClockFault → String
  | .noSuchSpan => "TimeDelta::milliseconds out of bounds"

/-- The state of a corrected clock. -/
structure Service where
  /-- Threshold of network delay, in milliseconds. -/
  lag : Int64
  /-- Threshold of replacing an offset, in milliseconds. -/
  resync : Int64
  /-- The boot time from which manual changes are counted. -/
  anchor : Int64
  /-- The latest boot time. -/
  boot : Int64
  /-- Some boot time was learnt, so `anchor` is one and not a mere clock reading. -/
  bootKnown : Bool
  /-- The server's lead over the device when it was last taken over. -/
  serverOffset : Int64
  /-- Time added on purpose. -/
  forward : Int64
  /-- A server's time was taken over. -/
  synchronized : Bool
  /-- Who is told of every takeover, in order of registration. -/
  listeners : List String
  /-- The steady clock at the start. -/
  started : Nat
  deriving DecidableEq

namespace Service

/-- A threshold in milliseconds; one that is no 64-bit count stops at the highest. -/
def millisOf (secs : UInt64) : Int64 := clamp (1000 * secs.toNat)

theorem toInt_millisOf (secs : UInt64) :
    (millisOf secs).toInt = min (1000 * secs.toNat) 9223372036854775807 := by
  have := toInt_clamp (1000 * secs.toNat)
  unfold millisOf
  omega

/-- A clock that knows no boot time yet and corrects nothing. -/
def unanchored (limits : Thresholds) (now : Instant) (started : Nat) : Service :=
  { lag := millisOf limits.lag
    resync := millisOf limits.resync
    anchor := now.millis
    boot := now.millis
    bootKnown := false
    serverOffset := 0
    forward := 0
    synchronized := false
    listeners := []
    started := started }

/-! ## Boot times -/

/-- Takes note of a boot time. The first one becomes the anchor too. -/
def learn (s : Service) (boot : Int64) : Service :=
  { s with boot, anchor := if s.bootKnown then s.anchor else boot, bootKnown := true }

/-- The boot time that a report stands for: its clock reading less its uptime. -/
def bootOf (r : Report) : Int64 := Saturating.sub r.sampledAt.millis r.millis

/-- After looking up the boot time. A failure changes nothing. -/
def refreshed (s : Service) : Except Fault Report → Service
  | .ok r => s.learn (bootOf r)
  | .error _ => s

def refresh (s : Service) : Probe Service := do
  let answer ← Query.report
  match answer with
  | .ok _ => return s.refreshed answer
  | .error fault =>
    Probe.note (.bootTimeKept fault)
    return s.refreshed answer

/-- A new clock: one reading to start from, and a first look at the boot time. -/
def start (limits : Thresholds) : Probe Service := do
  let now ← Probe.readClock
  let started ← Probe.readSteady
  (unanchored limits now started).refresh

/-- Takes note of the boot time that an uptime measured elsewhere stands for. -/
def updateUptime (s : Service) (uptime : Uptime) : Probe Service := do
  let now ← Probe.readClock
  return s.learn (Saturating.sub now.millis uptime.millis)

/-! ## Reading the clock -/

/-- What is added to the device's time, in milliseconds. -/
def correction (s : Service) : Int64 :=
  Saturating.add (Saturating.add (Saturating.sub s.anchor s.boot) s.serverOffset) s.forward

/-- The corrected time at a clock reading. Where no instant lies so far off, the reading itself. -/
def corrected (s : Service) (now : Instant) : Except ClockFault Instant :=
  match Span.ofMillis? s.correction with
  | some d => .ok ((now.add? d).getD now)
  | none => .error .noSuchSpan

/-- The corrected time. -/
def current (s : Service) : Probe (Except ClockFault Instant) := do
  return s.corrected (← Probe.readClock)

/-- The time left until `deadline` at a clock reading, negative after it. -/
def remainingAt (s : Service) (deadline : Int64) (now : Instant) : Except ClockFault Span := do
  let t ← s.corrected now
  match Span.ofMillis? (Saturating.sub deadline t.millis) with
  | some d => .ok d
  | none => .error .noSuchSpan

def remaining (s : Service) (deadline : Int64) : Probe (Except ClockFault Span) := do
  return s.remainingAt deadline (← Probe.readClock)

/-- The device's own time. -/
def uncorrected (_ : Service) : Probe Instant := Probe.readClock

/-- Nanoseconds of the steady clock since the start. -/
def sinceStart (s : Service) : Probe Nat := do return (← Probe.readSteady) - s.started

/-- The server offset as a span of time. -/
def offset (s : Service) : Except ClockFault Span :=
  match Span.ofMillis? s.serverOffset with
  | some d => .ok d
  | none => .error .noSuchSpan

/-! ## Server time -/

/-- The server's lead over a clock reading; one below the lag threshold counts as none. -/
def measure (s : Service) (server : Int64) (now : Instant) : Int64 :=
  let lead := Saturating.sub server now.millis
  if (Saturating.abs lead).toInt < s.lag.toInt then 0 else lead

/-- A measured lead is taken over: always the first time, later if it moved by more than the
threshold. -/
def due (s : Service) (lead : Int64) : Bool :=
  !s.synchronized ||
    s.resync.toInt < (Saturating.abs (Saturating.sub lead s.serverOffset)).toInt

/-- Takes a lead over. It replaces the correction of manual changes made so far. -/
def applied (s : Service) (lead : Int64) : Service :=
  { s with serverOffset := lead, anchor := s.boot, synchronized := true }

/-- What came of a server's time. -/
structure Synchronization where
  service : Service
  applied : Bool
  /-- The listeners told, in order. -/
  fired : List String

/-- What comes of a server's time at a clock reading. -/
def synchronizedAt (s : Service) (server : Int64) (now : Instant) : Synchronization :=
  let lead := s.measure server now
  if s.due lead then ⟨s.applied lead, true, s.listeners⟩ else ⟨s, false, []⟩

/-- Aligns the clock with a server's time. A time that is not positive is ignored unread. -/
def synchronize (s : Service) (server : Int64) : Probe Synchronization :=
  if server.toInt ≤ 0 then return ⟨s, false, []⟩
  else do
    let now ← Probe.readClock
    let outcome := s.synchronizedAt server now
    if outcome.applied then
      Probe.note (.serverApplied outcome.service.serverOffset)
    return outcome

def listen (s : Service) (name : String) : Service :=
  { s with listeners := s.listeners ++ [name] }

/-! ## Forward time -/

/-- Adds a span, counted in whole milliseconds; the total never drops below zero. -/
def addForward (s : Service) (d : Span) : Service :=
  let total := Saturating.add s.forward d.millis
  { s with forward := if total.toInt < 0 then 0 else total }

def resetForward (s : Service) : Service := { s with forward := 0 }

end Service

end BootClock
