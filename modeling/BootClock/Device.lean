import BootClock.BootTime
import BootClock.Event
import BootClock.Instant
/-!
# Devices, and programs that look at them

A device has a wall clock and a kernel. A `Probe` is a computation that may read the clock, ask the
kernel and note events; running it on a device gives its value, the device as it is afterwards, the
reads in the order they were made, and the events.

Left out: how a kernel is asked. It answers a number of seconds, fails with an error of the system, or
has no boot time to ask for.
-/

namespace BootClock

/-- What the kernel answers when asked for the boot time. -/
inductive Kernel where
  | answers (secs : Int64)
  | fails (cause : SystemError)
  | unsupported
  deriving DecidableEq

/-- The kernel's answer as a checked boot time. -/
def Kernel.bootTime : Kernel → Except Fault BootTime
  | .answers secs => BootTime.ofSeconds secs
  | .fails cause => .error (.query cause)
  | .unsupported => .error .unsupported

/-- A device. Every reading of its wall clock moves that clock on by `tick` milliseconds. Beside the
wall clock runs a steady one, in nanoseconds, which nobody can set. -/
structure Device where
  kernel : Kernel
  now : Instant
  tick : Int64
  steady : Nat := 0
  deriving DecidableEq

namespace Device

/-- The clock after so many milliseconds, if that is an instant. -/
def later? (d : Device) (millis : Int64) : Option Instant := do d.now.add? (← Span.ofMillis? millis)

/-- The clock moved by so many milliseconds. -/
def elapse? (d : Device) (millis : Int64) : Option Device :=
  (d.later? millis).map fun now => { d with now }

/-- The device after a reading of its clock; a clock at the end of time stands still. -/
def ticked (d : Device) : Device := (d.elapse? d.tick).getD d

/-- The wall clock is changed by hand by so many seconds. The time since boot goes on unchanged, so
a kernel that has a boot time moves it along with the clock. -/
def setByHand? (d : Device) (secs : Int64) : Option Device := do
  let now ← d.now.add? (← Span.ofParts? secs 0)
  match d.kernel with
  | .answers boot => return { d with now, kernel := .answers (Saturating.add boot secs) }
  | _ => return { d with now }

end Device

/-- A look at the outside. -/
inductive Read where
  | clock
  | kernel
  deriving DecidableEq, Repr

/-- The letter a read is noted as. -/
def Read.letter : Read → Char
  | .clock => 'C'
  | .kernel => 'K'

/-- What running a probe gives. -/
structure Observed (α : Type) where
  value : α
  device : Device
  reads : List Read
  events : List Event

/-- A computation that looks at a device. -/
def Probe (α : Type) : Type := Device → Observed α

namespace Probe

def run {α : Type} (p : Probe α) (d : Device) : Observed α := p d

protected def pure {α : Type} (a : α) : Probe α := fun d => ⟨a, d, [], []⟩

protected def bind {α β : Type} (p : Probe α) (f : α → Probe β) : Probe β := fun d =>
  let a := p d
  let b := f a.value a.device
  ⟨b.value, b.device, a.reads ++ b.reads, a.events ++ b.events⟩

instance : Monad Probe where
  pure := Probe.pure
  bind := Probe.bind

/-- Reads the wall clock. -/
def readClock : Probe Instant := fun d => ⟨d.now, d.ticked, [.clock], []⟩

/-- Asks the kernel for the boot time. -/
def askKernel : Probe (Except Fault BootTime) := fun d => ⟨d.kernel.bootTime, d, [.kernel], []⟩

/-- Reads the steady clock; that is no look at the wall clock or the kernel. -/
def readSteady : Probe Nat := fun d => ⟨d.steady, d, [], []⟩

/-- Notes an event. -/
def note (e : Event) : Probe Unit := fun d => ⟨(), d, [], [e]⟩

section
variable {α β : Type} (d : Device)

@[simp] theorem run_pure (a : α) : (pure a : Probe α).run d = ⟨a, d, [], []⟩ := rfl

theorem run_bind (p : Probe α) (f : α → Probe β) :
    (p >>= f).run d =
      ⟨((f (p.run d).value).run (p.run d).device).value,
        ((f (p.run d).value).run (p.run d).device).device,
        (p.run d).reads ++ ((f (p.run d).value).run (p.run d).device).reads,
        (p.run d).events ++ ((f (p.run d).value).run (p.run d).device).events⟩ := rfl

@[simp] theorem run_readClock : readClock.run d = ⟨d.now, d.ticked, [.clock], []⟩ := rfl

@[simp] theorem run_askKernel : askKernel.run d = ⟨d.kernel.bootTime, d, [.kernel], []⟩ := rfl

@[simp] theorem run_readSteady : readSteady.run d = ⟨d.steady, d, [], []⟩ := rfl

@[simp] theorem run_note (e : Event) : (note e).run d = ⟨(), d, [], [e]⟩ := rfl

end

end Probe

end BootClock
