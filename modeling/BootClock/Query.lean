import BootClock.Device
import BootClock.Report
/-!
# Asking for the uptime

Every question is answered from one sample: one reading of the clock and, after it, one question to
the kernel (`run_sample`).

| question | here |
| --- | --- |
| `uptime` | `uptime`, computed by `Uptime.since` |
| `uptime_millis` | `millis`, with `Uptime.sentinel` |
| `info` | `report`, made by `Report.of` |
| `boot_time` | `bootTime` |
-/

namespace BootClock.Query

/-- What one look at the device gives. -/
structure Sample where
  uptime : Uptime
  boot : BootTime
  now : Instant

/-- The sample of a clock reading and an answer of the kernel. -/
def sampleOf (now : Instant) (answer : Except Fault BootTime) : Except Fault Sample := do
  let boot ← answer
  let uptime ← Uptime.since boot now.seconds
  return ⟨uptime, boot, now⟩

def sample : Probe (Except Fault Sample) := do
  let now ← Probe.readClock
  let answer ← Probe.askKernel
  return sampleOf now answer

theorem run_sample (d : Device) :
    sample.run d = ⟨sampleOf d.now d.kernel.bootTime, d.ticked, [.clock, .kernel], []⟩ := by
  have h : d.ticked.kernel = d.kernel := by
    unfold Device.ticked Device.elapse?
    cases d.later? d.tick <;> rfl
  simp [sample, Probe.run_bind, h]

/-- The uptime, or why it is unknown. -/
def uptime : Probe (Except Fault Uptime) := do return (← sample).map Sample.uptime

/-- The report, or why there is none. -/
def report : Probe (Except Fault Report) := do
  return (← sample).map fun s => Report.of s.uptime s.boot s.now

/-- The uptime as a bare number of milliseconds. An unknown one is noted with its cause. -/
def millis : Probe Int64 := do
  let answer ← uptime
  match answer with
  | .ok _ => return Uptime.sentinel answer
  | .error fault =>
    Probe.note (.uptimeUnknown fault)
    return Uptime.sentinel answer

/-- The boot time alone; the clock is not read. -/
def bootTime : Probe (Except Fault BootTime) := Probe.askKernel

end BootClock.Query
