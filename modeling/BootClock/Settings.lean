/-!
# Settings

What a configuration file can set: the two thresholds of the clock, and the format that reports are
printed in.
-/

namespace BootClock

/-- When a server's time is taken over, in whole seconds. -/
structure Thresholds where
  /-- A server's time nearer to the clock than this is taken for network delay. -/
  lag : UInt64 := 180
  /-- A new offset replaces the one in use only if it differs by more than this. -/
  resync : UInt64 := 60
  deriving DecidableEq, Repr

/-- How reports are printed. -/
inductive Format where
  | text
  | json
  deriving DecidableEq, Repr

structure Settings where
  thresholds : Thresholds := {}
  format : Format := .text
  deriving DecidableEq, Repr

namespace Format

def name : Format → String
  | text => "text"
  | json => "json"

/-- The format of that name. Names are written in lower case. -/
def ofName? (s : String) : Option Format :=
  if s = "text" then some text else if s = "json" then some json else none

theorem ofName?_name (f : Format) : ofName? f.name = some f := by cases f <;> decide

theorem ofName?_eq_some_iff {s : String} {f : Format} : ofName? s = some f ↔ f.name = s := by
  constructor
  · intro h
    unfold ofName? at h
    split at h
    · next hs => rw [← Option.some.inj h, hs, name]
    · split at h
      · next hs => rw [← Option.some.inj h, hs, name]
      · cases h
  · rintro rfl
    exact ofName?_name f

end Format

end BootClock
