import BootClock.Fault
/-!
# Events worth logging

Each thing the library notes down while it works, with its severity, the part of the library it
comes from, its message and its fields.
-/

namespace BootClock

/-- Severities, the gravest first. -/
inductive Severity where
  | error
  | warn
  | info
  | debug
  | trace
  deriving DecidableEq, Repr

namespace Severity

def text : Severity → String
  | error => "ERROR"
  | warn => "WARN"
  | info => "INFO"
  | debug => "DEBUG"
  | trace => "TRACE"

/-- How much detail a filter must let through to show the event: 1 for errors alone, 5 for all. -/
def detail : Severity → Nat
  | error => 1
  | warn => 2
  | info => 3
  | debug => 4
  | trace => 5

end Severity

inductive Event where
  /-- A number was asked for and the uptime is unknown. -/
  | uptimeUnknown (fault : Fault)
  /-- A clock could not look up its boot time and goes on with the one it has. -/
  | bootTimeKept (fault : Fault)
  /-- A clock takes over a server's time. -/
  | serverApplied (offset : Int64)
  /-- A call from a host program failed. -/
  | hostCallFailed (message : String)
  /-- A configuration file was found. -/
  | settingsFound (path : String)
  /-- No configuration file was found. -/
  | settingsMissing (name : String)
  deriving DecidableEq

namespace Event

def severity : Event → Severity
  | bootTimeKept _ => .warn
  | _ => .debug

/-- The part of the program that a filter names to select the event. -/
def target : Event → String
  | uptimeUnknown _ => "device_uptime::info::uptime"
  | bootTimeKept _ | serverApplied _ => "device_uptime::time_service"
  | hostCallFailed _ => "device_uptime_ffi::uptime"
  | settingsFound _ | settingsMissing _ => "device_uptime::config"

def message : Event → String
  | uptimeUnknown _ => "uptime unavailable"
  | bootTimeKept _ => "uptime unavailable, keeping previous boot time"
  | serverApplied _ => "applying server time offset"
  | hostCallFailed _ => "uptime ffi call failed"
  | settingsFound path => "Loading config from: " ++ path
  | settingsMissing name => "No " ++ name ++ " found, using defaults"

/-- The values that go with the message. -/
def fields : Event → List (String × String)
  | uptimeUnknown fault | bootTimeKept fault => [("error", fault.message)]
  | serverApplied offset => [("offset_ms", Numeral.intText offset.toInt)]
  | hostCallFailed message => [("error", message)]
  | settingsFound _ | settingsMissing _ => []

/-- The message and the fields, by name. -/
def members (e : Event) : List (String × String) := ("message", e.message) :: e.fields

/-- Each field with a space in front. -/
def fieldsText (e : Event) : String :=
  String.join (e.fields.map fun f => " " ++ f.1 ++ "=" ++ f.2)

/-- The message and its fields on one line. -/
def body (e : Event) : String := e.message ++ e.fieldsText

/-- Severity and body. -/
def line (e : Event) : String := e.severity.text ++ " " ++ e.body

end Event

end BootClock
