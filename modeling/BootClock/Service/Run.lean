import BootClock.Service
/-!
# Runs of the corrected clock

A session is a clock on its device. An action is one call of the clock or one thing that happens to
the device; a run is a list of them, and each step tells its answer, the listeners told, the reads
made and the events noted.
-/

namespace BootClock

structure Session where
  service : Service
  device : Device
  deriving DecidableEq

namespace Session

inductive Action where
  | refresh
  /-- An uptime measured elsewhere, in milliseconds. -/
  | updateUptime (millis : Int64)
  | current
  | uncorrected
  | remaining (deadline : Int64)
  | synchronize (server : Int64)
  | listen (name : String)
  | forwardMillis (millis : Int64)
  /-- Whole seconds and nanoseconds forward of them. -/
  | forwardParts (secs : Int64) (nanos : Nat)
  | resetForward
  | sinceStart
  | setNow (now : Instant)
  | setKernel (kernel : Kernel)
  | setTick (millis : Int64)
  | elapse (millis : Int64)
  /-- The wall clock is changed by hand by so many seconds. -/
  | setByHand (secs : Int64)
  deriving DecidableEq

inductive Answer where
  | done
  | time (t : Except ClockFault Instant)
  | left (d : Except ClockFault Span)
  | applied (b : Bool)
  | elapsed (nanos : Nat)
  /-- A negative uptime was offered. -/
  | negativeUptime
  /-- There is no such span, or no such instant. -/
  | outOfRange

/-- One step of a run. -/
structure Step where
  session : Session
  answer : Answer
  fired : List String
  reads : List Read
  events : List Event

/-- Runs a call that leaves the clock as it was. -/
def ask {α : Type} (s : Session) (p : Probe α) (answer : α → Answer) : Step :=
  let o := p.run s.device
  ⟨⟨s.service, o.device⟩, answer o.value, [], o.reads, o.events⟩

/-- Runs a call that may change the clock. -/
def change (s : Session) (p : Probe Service) : Step :=
  let o := p.run s.device
  ⟨⟨o.value, o.device⟩, .done, [], o.reads, o.events⟩

/-- A change of the clock that looks at nothing. -/
def adjust (s : Session) (service : Service) : Step := ⟨⟨service, s.device⟩, .done, [], [], []⟩

/-- Something that happens to the device, or that cannot happen to it. -/
def happen (s : Session) : Option Device → Step
  | some device => ⟨⟨s.service, device⟩, .done, [], [], []⟩
  | none => ⟨s, .outOfRange, [], [], []⟩

def forward (s : Session) : Option Span → Step
  | some d => s.adjust (s.service.addForward d)
  | none => ⟨s, .outOfRange, [], [], []⟩

def step (s : Session) : Action → Step
  | .refresh => s.change s.service.refresh
  | .updateUptime millis => match Uptime.ofMillis? millis with
    | some u => s.change (s.service.updateUptime u)
    | none => ⟨s, .negativeUptime, [], [], []⟩
  | .current => s.ask s.service.current .time
  | .uncorrected => s.ask s.service.uncorrected fun t => .time (.ok t)
  | .remaining deadline => s.ask (s.service.remaining deadline) .left
  | .synchronize server =>
    let o := (s.service.synchronize server).run s.device
    ⟨⟨o.value.service, o.device⟩, .applied o.value.applied, o.value.fired, o.reads, o.events⟩
  | .listen name => s.adjust (s.service.listen name)
  | .forwardMillis millis => s.forward (Span.ofMillis? millis)
  | .forwardParts secs nanos => s.forward (Span.ofParts? secs nanos)
  | .resetForward => s.adjust s.service.resetForward
  | .sinceStart => s.ask s.service.sinceStart .elapsed
  | .setNow now => s.happen (some { s.device with now })
  | .setKernel kernel => s.happen (some { s.device with kernel })
  | .setTick tick => s.happen (some { s.device with tick })
  | .elapse millis => s.happen (s.device.elapse? millis)
  | .setByHand secs => s.happen (s.device.setByHand? secs)

/-- The first step: a clock is made on the device. -/
def start (limits : Thresholds) (device : Device) : Step :=
  let o := (Service.start limits).run device
  ⟨⟨o.value, o.device⟩, .done, [], o.reads, o.events⟩

/-- The steps of a run, in order. -/
def run (s : Session) : List Action → List Step
  | [] => []
  | a :: rest => s.step a :: (s.step a).session.run rest

/-- The session after a run. -/
def after (s : Session) (actions : List Action) : Session :=
  actions.foldl (fun s a => (s.step a).session) s

/-- The corrected time, seen without reading the clock. -/
def view (s : Session) : Except ClockFault Instant := s.service.corrected s.device.now

end Session

end BootClock
