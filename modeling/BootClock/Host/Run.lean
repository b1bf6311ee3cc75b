import BootClock.Host
/-!
# Runs of host programs

A host program makes calls, exchanges the device that its thread looks at, and starts threads that
do the same. A new thread has no failure recorded. It looks at the device of the thread that started
it until it exchanges it; the exchange is not seen outside.
-/

namespace BootClock.Host

inductive Step where
  | call (c : Call)
  | exchange (device : Device)
  | thread (steps : List Step)

/-- What a step gives: the answer of a call with the events noted, or what the steps of a thread
gave. -/
inductive Result where
  | answered (answer : Answer) (events : List Event)
  | exchanged
  | finished (results : List Result)

/-- A thread that runs. -/
structure Running where
  thread : Thread
  /-- The device that was there when it started. -/
  outer : Device
  /-- The device that it exchanged that one for. -/
  own : Option Device

namespace Running

/-- A thread that starts on a device. -/
def new (device : Device) : Running := ⟨{}, device, none⟩

/-- The device that the thread looks at. -/
def device (r : Running) : Device := r.own.getD r.outer

/-- After a look at the device that may have moved its clock on. -/
def moved (r : Running) (device : Device) : Running :=
  match r.own with
  | some _ => { r with own := some device }
  | none => { r with outer := device }

end Running

mutual

/-- One step of a thread. -/
def step (r : Running) : Step → Result × Running
  | .call c =>
    let o := (call r.thread c).run r.device
    (.answered o.value.1 o.events, { r.moved o.device with thread := o.value.2 })
  | .exchange device => (.exchanged, { r with own := some device })
  | .thread steps =>
    let (results, inner) := run (.new r.device) steps
    (.finished results, r.moved inner.outer)

/-- The steps of a thread, in order. -/
def run (r : Running) : List Step → List Result × Running
  | [] => ([], r)
  | s :: steps =>
    let (result, r) := step r s
    let (results, r) := run r steps
    (result :: results, r)

end

end BootClock.Host
