import BootClock.CommandLine
import BootClock.Json.Report
import BootClock.Query
import BootClock.Settings.Discovery
/-!
# The program

A run of the program prints a text, or fails with a message and prints nothing. Only `info` needs
settings; they are loaded before anything is asked of the device.

| command line | here |
| --- | --- |
| `device-uptime millis` | `Program.line` of `Query.millis` |
| `device-uptime info` | `Program.settings`, then `Program.info` |
| `device-uptime boot-time` | `Program.line` of `Query.bootTime` |

Left out: help, the exact words about a command line that is not understood (`Failure.usageText`
stands for them), and a standard output that takes nothing. A report always has a text
(`Report.json?`), so no failure is there for one without.
-/

namespace BootClock

/-- Why a run fails. -/
inductive Failure where
  /-- The command line is not understood. -/
  | usage
  | settings (f : SettingsFault)
  | uptime (f : Fault)
  deriving DecidableEq

namespace Failure

def usageText : String :=
  "Usage: device-uptime [--config <CONFIG>] <COMMAND>\n\n" ++
    "Commands:\n  millis     Print uptime in milliseconds, or -1 when unavailable\n" ++
    "  info       Print an uptime report [--format <text|json>]\n" ++
    "  boot-time  Print the kernel boot time as a Unix timestamp\n"

/-- Every line of a text, four spaces in. -/
def indented (s : String) : String :=
  String.ofList <| List.intercalate ['\n'] <|
    (split '\n' s.toList).map fun line => "    ".toList ++ line

/-- The message, and the failure underneath it if there is one. -/
def message : Failure → String
  | usage => usageText
  | settings f => "Error: " ++ f.message ++ "\n"
  | uptime f => "Error: " ++ f.message ++ "\n" ++ match f.cause with
    | some cause => "\nCaused by:\n" ++ indented cause.message ++ "\n"
    | none => ""

end Failure

namespace Program

/-- What a run prints, or why it fails. -/
abbrev Outcome : Type := Except Failure String

/-- The exit code. -/
def Outcome.code : Outcome → Nat
  | .ok _ => 0
  | .error .usage => 2
  | .error _ => 1

/-- What goes to standard output. -/
def Outcome.output : Outcome → String
  | .ok s => s
  | .error _ => ""

/-- What goes to standard error. -/
def Outcome.message : Outcome → String
  | .ok _ => ""
  | .error f => f.message

def line (n : Int64) : String := Numeral.intText n.toInt ++ "\n"

/-- A report in a format. -/
def shown (r : Report) : Format → String
  | .text => r.lines
  | .json => r.prettyJson ++ "\n"

/-- Prints a report in the format given, or in that of the settings. -/
def info (format : Option Format) (settings : Settings) : Probe Outcome := do
  match ← Query.report with
  | .ok r => return .ok (shown r (format.getD settings.format))
  | .error f => return .error (.uptime f)

/-- The settings that hold for a run. -/
def settings (s : Surroundings) : Option String → Probe (Except SettingsFault Settings)
  | some path => return s.settingsFrom path
  | none => s.settings

def perform (s : Surroundings) (i : Invocation) : Probe Outcome :=
  match i.command with
  | .millis => do return .ok (line (← Query.millis))
  | .info format => do
    match ← settings s i.settingsPath with
    | .ok settings => info format settings
    | .error f => return .error (.settings f)
  | .bootTime => do
    match ← Query.bootTime with
    | .ok b => return .ok (line b.secs)
    | .error f => return .error (.uptime f)

/-- A run with these arguments; `named` is the path of the settings that the environment names. -/
def run (s : Surroundings) (named : Option String) (args : List String) : Probe Outcome :=
  match CommandLine.read? named args with
  | some i => perform s i
  | none => return .error .usage

end Program

end BootClock
