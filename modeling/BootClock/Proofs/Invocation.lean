import BootClock.Program
import BootClock.Proofs.Lookup
/-!
# Runs that need no settings

Arguments are read before it is known whether the command needs settings, so an empty path of the
settings stops every command, and any other path, given or named by the environment, is taken along
(`read?_withPath`). From there on `millis` looks at nothing but the device: what it prints depends
neither on the files nor on the path (`millis_of_any_settings`).
-/

namespace BootClock

namespace CommandLine

/-- Arguments with a path of the settings in front of them, if one is given. -/
def withPath (path : Option String) (args : List String) : List String :=
  match path with
  | some p => "--config" :: p :: args
  | none => args

variable {args : List String}

theorem isValue_of_no_dash {p : String} (h : p.toList.head? ≠ some '-') : isValue p = true := by
  simp [isValue, h]

theorem settingsPath?_config {p : String} (hp : isValue p = true) :
    settingsPath? ("--config" :: p :: args) = if p = "" then none else some (some p, args) := by
  by_cases hempty : p = "" <;> simp [settingsPath?, hp, hempty]

/-- No command is taken for a path of the settings. -/
theorem settingsPath?_of_command {c : Command} (h : command? args = some c) :
    settingsPath? args = some (none, args) := by
  have hskip : ∀ word rest, valueAfter? "--config=" word = none → word ≠ "--config" →
      settingsPath? (word :: rest) = some (none, word :: rest) := by
    intro word rest hvalue hword
    simp only [settingsPath?, if_neg hword, hvalue]
  unfold command? at h
  split at h
  · exact hskip _ _ (by decide +kernel) (by decide)
  · exact hskip _ _ (by decide +kernel) (by decide)
  · exact hskip _ _ (by decide +kernel) (by decide)
  · cases h

/-- A path that is given goes before one that is named, and the one that holds must not be empty. -/
theorem read?_withPath {c : Command} {path : Option String} (named : Option String)
    (hpath : ∀ p, path = some p → isValue p = true) (hc : command? args = some c) :
    read? named (withPath path args) =
      if path.or named = some "" then none else some ⟨c, path.or named⟩ := by
  cases path with
  | none =>
    by_cases hempty : named = some "" <;>
      simp [withPath, read?, settingsPath?_of_command hc, hc, hempty]
  | some p =>
    have hread : settingsPath? ("--config" :: p :: args) =
        if p = "" then none else some (some p, args) := settingsPath?_config (hpath p rfl)
    by_cases hempty : p = ""
    · subst hempty
      simp [withPath, read?, hread]
    · simp [withPath, read?, hread, hc, hempty]

end CommandLine

namespace Program

open CommandLine

theorem run_withPath {c : Command} {path : Option String} {args : List String} (s : Surroundings)
    (named : Option String) (hpath : ∀ p, path = some p → isValue p = true)
    (hc : command? args = some c) :
    run s named (withPath path args) =
      if path.or named = some "" then pure (.error .usage) else perform s ⟨c, path.or named⟩ := by
  rw [run, read?_withPath named hpath hc]
  by_cases hempty : path.or named = some ""
  · rw [if_pos hempty, if_pos hempty]
  · rw [if_neg hempty, if_neg hempty]

theorem value_perform_millis (s : Surroundings) (path : Option String) (d : Device) :
    ((perform s ⟨.millis, path⟩).run d).value = .ok (line (Query.millis.run d).value) := by
  simp only [perform, Probe.run_bind, Probe.run_pure]

/-- What comes of `millis` with or without a path of the settings. -/
theorem value_run_millis {path : Option String} (s : Surroundings) (named : Option String)
    (d : Device) (hpath : ∀ p, path = some p → p.toList.head? ≠ some '-') :
    ((run s named (withPath path ["millis"])).run d).value =
      if path.or named = some "" then .error .usage
      else .ok (line (Query.millis.run d).value) := by
  have hvalue : ∀ p, path = some p → isValue p = true := fun p hp => isValue_of_no_dash (hpath p hp)
  rw [run_withPath s named hvalue (by decide : command? ["millis"] = some .millis)]
  by_cases hempty : path.or named = some ""
  · rw [if_pos hempty, if_pos hempty, Probe.run_pure]
  · rw [if_neg hempty, if_neg hempty, value_perform_millis]

/-- **The number is printed whatever the settings are:** unless the path that holds for them is
empty, which is not understood, `millis` prints the uptime as a bare number and succeeds. So two
runs on one device agree exactly if that path is empty in both of them or in neither. -/
theorem millis_of_any_settings {path path' : Option String} (s s' : Surroundings)
    (named named' : Option String) (d : Device)
    (hpath : ∀ p, path = some p → p.toList.head? ≠ some '-')
    (hpath' : ∀ p, path' = some p → p.toList.head? ≠ some '-') :
    let o := ((run s named (withPath path ["millis"])).run d).value
    let o' := ((run s' named' (withPath path' ["millis"])).run d).value
    (path.or named ≠ some "" →
      o.code = 0 ∧ o.output = Numeral.intText (Query.millis.run d).value.toInt ++ "\n") ∧
    (path.or named = some "" → o.code = 2 ∧ o.output = "") ∧
    (o'.code = o.code ∧ o'.output = o.output ↔
      (path'.or named' = some "" ↔ path.or named = some "")) := by
  intro o o'
  have ho : o = _ := value_run_millis s named d hpath
  have ho' : o' = _ := value_run_millis s' named' d hpath'
  rw [ho, ho']
  by_cases hempty : path.or named = some "" <;> by_cases hempty' : path'.or named' = some "" <;>
    simp [hempty, hempty', Outcome.code, Outcome.output, line]

/-- Surroundings without any file. -/
def bare : Surroundings :=
  { root := .directory [], current := some [], home := none, accountHome := none, configHome := none }

/-- Surroundings with a file of settings that names no format there is. -/
def malformed : Surroundings :=
  { bare with root := .directory [(Settings.fileName, .file "[output]\nformat = \"yaml\"\n".toUTF8)] }

/-- Beside a file that holds no settings, a path that leads nowhere and a variable of the environment
that is set to nothing, the command prints what it prints without any of them. -/
theorem millis_of_malformed_settings :
    let o := ((run malformed (some "") (withPath (some "missing.toml") ["millis"])).run .sample).value
    let o' := ((run bare none (withPath none ["millis"])).run .sample).value
    (o.code = 0 ∧ o.output = "100000\n") ∧ o'.code = o.code ∧ o'.output = o.output := by
  intro o o'
  have hpath : ∀ p, some "missing.toml" = some p → p.toList.head? ≠ some '-' := by
    rintro p hp
    obtain rfl := Option.some.inj hp
    decide
  have hnone : ∀ p : String, none = some p → p.toList.head? ≠ some '-' := nofun
  obtain ⟨hprinted, -, hsame⟩ :=
    millis_of_any_settings malformed bare (some "") none .sample hpath hnone
  obtain ⟨hcode, houtput⟩ := hprinted (by decide)
  exact ⟨⟨hcode, houtput.trans (by decide +kernel)⟩, hsame.2 (by decide)⟩

/-- A variable of the environment that is set to nothing stops the command, which would print the
uptime without it. -/
theorem millis_stopped_by_empty_path :
    let stopped := ((run bare (some "") ["millis"]).run .sample).value
    let printed := ((run bare none ["millis"]).run .sample).value
    (Query.millis.run .sample).value = 100000 ∧
      stopped.code = 2 ∧ stopped.output = "" ∧
      printed.code = 0 ∧ printed.output = "100000\n" := by
  intro stopped printed
  exact ⟨by decide +kernel, by decide +kernel, by decide +kernel, by decide +kernel,
    by decide +kernel⟩

end Program

end BootClock
