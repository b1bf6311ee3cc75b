import BootClock.Settings
/-!
# The command line

`[--config PATH] millis`, `[--config PATH] info [--format FORMAT]` or `[--config PATH] boot-time`.
Options of the program come before the command and those of a command after it, each at most once. A
path that the environment names, in `DEVICE_UPTIME_CONFIG`, holds where the command line names none.

Left out: arguments that are no texts, and asking for help (`--help`, `-h`, `help`). A command line
that asks for help counts as one that is not understood.
-/

namespace BootClock

inductive Command where
  /-- Print the uptime in milliseconds. -/
  | millis
  /-- Print a report, in the format that the settings name unless one is given. -/
  | info (format : Option Format)
  /-- Print the boot time. -/
  | bootTime
  deriving DecidableEq, Repr

/-- What a command line asks for. -/
structure Invocation where
  command : Command
  /-- The file to read settings from, if one is named. -/
  settingsPath : Option String
  deriving DecidableEq, Repr

namespace CommandLine

/-- The text after `word`, if it starts with it. -/
def valueAfter? (word : String) (s : String) : Option String :=
  if word.toList.isPrefixOf s.toList then some (String.ofList (s.toList.drop word.length)) else none

/-- An argument that starts like an option is none's value; a single dash is. -/
def isValue (s : String) : Bool := s == "-" || s.toList.head? != some '-'

/-- No arguments are left, or only the mark of their end. -/
def isEnd : List String → Bool
  | [] | ["--"] => true
  | _ => false

/-- The value that is written in one argument with its option. -/
def attachedFormat? (arg : String) : Option String :=
  ((valueAfter? "--format=" arg).or (valueAfter? "-f=" arg)).or (valueAfter? "-f" arg)

/-- The format that the arguments after `info` name, if they name one. -/
def format? (args : List String) : Option (Option Format) :=
  if isEnd args then some none
  else match args with
    | [] => none
    | option :: args =>
      if option = "--format" ∨ option = "-f" then
        match args with
        | [] => none
        | value :: args => if isEnd args then (Format.ofName? value).map some else none
      else if isEnd args then
        ((attachedFormat? option).bind Format.ofName?).map some
      else none

/-- The command and its own arguments. -/
def command? : List String → Option Command
  | "millis" :: args => if isEnd args then some .millis else none
  | "boot-time" :: args => if isEnd args then some .bootTime else none
  | "info" :: args => (format? args).map .info
  | _ => none

/-- The path of the settings that the arguments start with, and the other arguments. -/
def settingsPath? : List String → Option (Option String × List String)
  | [] => none
  | arg :: args =>
    if arg = "--config" then
      match args with
      | [] => none
      | path :: args => if isValue path ∧ path ≠ "" then some (some path, args) else none
    else match valueAfter? "--config=" arg with
      | some path => if path = "" then none else some (some path, args)
      | none => some (none, arg :: args)

/-- What the arguments ask for; none if they are not understood. `named` is the path that the
environment names, which must not be empty where it holds. -/
def read? (named : Option String) (args : List String) : Option Invocation := do
  let (path, args) ← settingsPath? args
  let command ← command? args
  if path = none ∧ named = some "" then none
  else return { command, settingsPath := path.or named }

example : read? none ["--config=a", "info", "-fjson", "--"] =
    some ⟨.info (some .json), some "a"⟩ := by decide +kernel

example : read? (some "b") ["millis"] = some ⟨.millis, some "b"⟩ := by decide +kernel

example : read? none ["info", "--format", "text", "--format", "json"] = none := by decide +kernel

end CommandLine

end BootClock
