import BootClock.Json.Report
import BootClock.Query
/-!
# Calls from host programs

A host program in another language calls a few functions that answer numbers and C strings. A
failure is answered by a number or a null pointer, and its message is recorded for the thread that
called until the next call that can fail. A C string ends at its first NUL, so a text that holds one
is none.

| exported function | here |
| --- | --- |
| `GetUptimeMilliseconds` | `uptimeMillis` |
| `GetDeviceUptime` | the same, as `Call.deviceUptime` |
| `device_uptime_info_json` | `reportJson`, with the ways it can end (`Ending`) |
| `device_uptime_last_error` | `Call.lastError` |
| `device_uptime_string_free` | `Call.release`, `Call.releaseNull` |
| `device_uptime_version` | `version` |

A string is its text: at which address it lies, and when that memory is given back, is left out.
-/

namespace BootClock.Host

/-- What a thread remembers between its calls. -/
structure Thread where
  /-- The message of the latest call that can fail, if it failed. -/
  lastError : Option String := none
  deriving DecidableEq, Repr

inductive Call where
  /-- The uptime in milliseconds. -/
  | uptimeMillis
  /-- The same under an older name. -/
  | deviceUptime
  /-- The report in JSON. -/
  | reportJson
  | lastError
  /-- Gives the string of a report back. -/
  | release (report : String)
  /-- Gives a null pointer back. -/
  | releaseNull
  | version
  deriving DecidableEq, Repr

inductive Answer where
  | number (n : Int64)
  /-- A string, or a null pointer. -/
  | text (s : Option String)
  | nothing
  deriving DecidableEq, Repr

def version : String := "0.1.0"

/-- Where the first NUL of a text is. -/
def nulAt? (s : String) : Option Nat := s.toList.findIdx? (· == '\x00')

/-- The text as a C string, if it can be one. -/
def cString? (s : String) : Option String := if (nulAt? s).isSome then none else some s

/-- Records the message of a failure. -/
def record (message : String) : Probe Thread := do
  Probe.note (.hostCallFailed message)
  return { lastError := cString? message }

/-- Forgets the failure before, as the call succeeded. -/
def clear : Thread := {}

def uptimeMillis : Probe (Answer × Thread) := do
  let answer ← Query.uptime
  match answer with
  | .ok _ => return (.number (Uptime.sentinel answer), clear)
  | .error f => return (.number (Uptime.sentinel answer), ← record f.message)

/-- The ways in which the call for a report can end. -/
inductive Ending where
  /-- The device has no report to tell. -/
  | unanswered (f : Fault)
  /-- The report has no text. -/
  | unwritten
  /-- The text has a NUL at that position, so it is no C string. -/
  | cut (position : Nat)
  /-- The text is given. -/
  | given (text : String)
  deriving DecidableEq

/-- How the call ends with what the device tells. -/
def ending : Except Fault Report → Ending
  | .error f => .unanswered f
  | .ok r => match r.json? with
    | none => .unwritten
    | some text => match nulAt? text with
      | some position => .cut position
      | none => .given text

/-- What is said of a text that could not be put together. -/
def unwritable : String := "an error occurred when formatting an argument"

def reportJson : Probe (Answer × Thread) := do
  match ending (← Query.report) with
  | .unanswered f => return (.text none, ← record f.message)
  | .unwritten => return (.text none, ← record ("serialization error: " ++ unwritable))
  | .cut position =>
    return (.text none, ← record ("nul byte found in provided data at position: " ++
      Numeral.text position))
  | .given text => return (.text (some text), clear)

/-- Makes a call on a thread. -/
def call (t : Thread) : Call → Probe (Answer × Thread)
  | .uptimeMillis | .deviceUptime => uptimeMillis
  | .reportJson => reportJson
  | .lastError => return (.text t.lastError, t)
  | .release _ | .releaseNull => return (.nothing, t)
  | .version => return (.text (some version), t)

end BootClock.Host
