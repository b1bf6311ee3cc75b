import BootClock.Device
import BootClock.FileTree
import BootClock.Settings.Document
/-!
# Finding the settings

Settings are loaded from a file that is named, or from the one that is found: the nearest entry
called `.device-uptime.toml` in the current directory or a directory around it, else the one in the
user's directory for configuration. Where none is found, the defaults hold. An entry that is found
is the one that counts, even if it cannot be read.

| outside | here |
| --- | --- |
| `HOME` | `home`; the account's own directory (`accountHome`) where it is not set or empty |
| `XDG_CONFIG_HOME` | `configHome`, which counts only if it starts at the root |
| `load` | `settings` |
| `load_from_path` | `settingsFrom` |
-/

namespace BootClock

/-- What a program can see of the files around it. -/
structure Surroundings where
  /-- The root directory. -/
  root : FileTree
  /-- The current directory, unless it is gone. -/
  current : Option Place
  /-- The path that the user set for the home directory. -/
  home : Option String
  /-- The path of the home directory that the user's account has. -/
  accountHome : Option String
  /-- The path that the user set for configuration directories. -/
  configHome : Option String

/-- A place and the directories around it, up to the root. -/
def Place.upward (p : Place) : List Place :=
  (List.range (p.length + 1)).reverse.map fun n => p.take n

namespace Settings

def fileName : String := ".device-uptime.toml"

/-- An entry that was found: its path and its place. -/
structure Source where
  path : String
  place : Place
  deriving DecidableEq

/-- Where the entry of a directory is, if the directory has one. -/
def entryOf (dir : Place) : Place := dir ++ [fileName]

end Settings

namespace Surroundings

open Settings

/-- What a path leads to, if it leads anywhere. -/
def lookUp? (s : Surroundings) (path : String) : Option Source :=
  match s.root.place s.current path with
  | .ok place => some ⟨path, place⟩
  | .error _ => none

/-- The nearest entry in a directory or one around it. -/
def nearest? (s : Surroundings) (here : Place) : Option Source :=
  here.upward.findSome? fun dir => s.lookUp? (entryOf dir).path

/-- The path of the user's home directory, if there is one. One that is set to nothing counts as not
set. -/
def homeDirectory (s : Surroundings) : Option String :=
  match s.home with
  | some path => if path = "" then s.accountHome else some path
  | none => s.accountHome

/-- The path of the directory for configuration, if there is one. One that is set counts only if it
starts at the root. -/
def configDirectory (s : Surroundings) : Option String :=
  let standard := s.homeDirectory.map fun home => FileTree.join home ".config"
  match s.configHome with
  | some path => if FileTree.isAbsolute path then some path else standard
  | none => standard

/-- The path of the entry in the directory for configuration. -/
def globalPath (s : Surroundings) : Option String :=
  s.configDirectory.map fun dir => FileTree.join (FileTree.join dir "device-uptime") fileName

/-- The entry in the directory for configuration. -/
def global? (s : Surroundings) : Option Source := s.globalPath.bind s.lookUp?

/-- The entry that counts. Without a current directory nothing is looked for. -/
def source? (s : Surroundings) : Option Source := do
  let here ← s.current
  (s.nearest? here).or s.global?

/-- The settings in the file at a place. -/
def settingsAt (s : Surroundings) (place : Place) : Except SettingsFault Settings :=
  match s.root.readAt place with
  | .ok bytes => Settings.ofBytes bytes
  | .error cause => .error (.unreadable cause)

/-- The settings in the file at a path. -/
def settingsFrom (s : Surroundings) (path : String) : Except SettingsFault Settings :=
  match s.root.place s.current path with
  | .ok place => s.settingsAt place
  | .error cause => .error (.unreadable cause)

/-- The settings that hold where no file is named. -/
def settings (s : Surroundings) : Probe (Except SettingsFault Settings) :=
  match s.source? with
  | some source => do
    Probe.note (.settingsFound source.path)
    return s.settingsAt source.place
  | none => do
    Probe.note (.settingsMissing fileName)
    return .ok {}

end Surroundings

end BootClock
