import BootClock.Log.Line
import BootClock.Program
/-!
# The executable

Gathers what a run of the program depends on, runs it, and prints what came of it. Only the files
that the run may look at are read. The accounts of the machine are not asked for a home directory: a
user who sets none has none here.
-/

namespace BootClock.Main

/-- What is at a path on disk, without the entries of a directory. -/
def look? (path : String) : IO (Option FileTree) := do
  try
    let resolved ← IO.FS.realPath path
    if ← resolved.isDir then return some (.directory [])
    return some (.file (← IO.FS.readBinFile path))
  catch _ => return none

/-- Adds what is at a place, and what is on the way there. -/
def visit (root : FileTree) (place : Place) : IO FileTree := do
  let mut root := root
  for n in [0:place.length] do
    let here : Place := place.take (n + 1)
    if (root.get? here).isNone then
      match ← look? here.path with
      | some tree => root := FileTree.put tree here root
      | none => return root
  return root

/-- The files around a run that may read settings from `named`. -/
def surroundings (named : List String) : IO Surroundings := do
  let current ← try
      pure (some (FileTree.textual [] (← IO.currentDir).toString))
    catch _ => pure none
  let blank : Surroundings :=
    { root := .directory [], current, home := ← IO.getEnv "HOME", accountHome := none
      configHome := ← IO.getEnv "XDG_CONFIG_HOME" }
  let here : Place := current.getD []
  let found := here.upward.map Settings.entryOf
  let places := here :: found ++ (blank.globalPath.toList ++ named).map (FileTree.textual here)
  return { blank with root := ← places.foldlM visit blank.root }

/-- No boot time can be asked for here, so no uptime is ever known and no clock reading shown. -/
def device : Device := { kernel := .unsupported, now := .epoch, tick := 0 }

end BootClock.Main

open BootClock in
def main (args : List String) : IO UInt32 := do
  let environment ← IO.getEnv "DEVICE_UPTIME_CONFIG"
  let named := (CommandLine.read? environment args).bind Invocation.settingsPath
  let around ← Main.surroundings named.toList
  let o := (Program.run around environment args).run Main.device
  let directives := ((← IO.getEnv "RUST_LOG").getD "").toList
  IO.eprint (Log.Filter.warnings directives)
  let style := Log.Style.ofName (← IO.getEnv "LOG_FORMAT")
  for line in Log.lines (.ofText directives) style o.events do
    IO.eprintln line
  IO.print (Program.Outcome.output o.value)
  IO.eprint (Program.Outcome.message o.value)
  return .ofNat (Program.Outcome.code o.value)
