import BootClock.Proofs.Agreement
import BootClock.Proofs.Grammar
/-!
# What `info` prints

A run of `info` goes by the settings under the path that is given, else named by the environment,
else found, and by the defaults without any of them (`Surroundings.loaded`). It prints the whole
report or nothing: it fails exactly if there are no settings or, with settings, no report, and
without settings it looks at nothing (`info_all_or_nothing`).
-/

namespace BootClock

/-! ## Settings -/

namespace Surroundings

open Settings

variable {s : Surroundings} {path : String} {source : Source}

/-- The path of the settings that a run goes by: the one that is given, else the one that the
environment names, else that of the entry that is found. -/
def consulted (s : Surroundings) (given named : Option String) : Option String :=
  (given.or named).or (s.source?.map Source.path)

/-- What is loaded under a path; without one, the defaults. -/
def loaded (s : Surroundings) : Option String → Except SettingsFault Settings
  | some path => s.settingsFrom path
  | none => .ok {}

theorem path_of_lookUp? (h : s.lookUp? path = some source) : source.path = path := by
  unfold lookUp? at h
  split at h
  · cases h
    rfl
  · cases h

/-- An entry that is found is what its own path leads to. -/
theorem lookUp?_of_source? (h : s.source? = some source) :
    s.lookUp? source.path = some source := by
  simp only [source?, Option.bind_eq_bind, Option.bind_eq_some_iff, Option.or_eq_some_iff] at h
  obtain ⟨here, -, hnearest | ⟨-, hglobal⟩⟩ := h
  · obtain ⟨dir, -, hfound⟩ := List.exists_of_findSome?_eq_some hnearest
    rw [path_of_lookUp? hfound]
    exact hfound
  · obtain ⟨path, -, hfound⟩ := Option.bind_eq_some_iff.1 hglobal
    rw [path_of_lookUp? hfound]
    exact hfound

end Surroundings

/-! ## Runs -/

namespace Program

variable {s : Surroundings} {named path : Option String} {args : List String} {d : Device}
  {format : Option Format}

theorem value_settings (s : Surroundings) (path : Option String) (d : Device) :
    ((settings s path).run d).value =
      s.loaded (path.or (s.source?.map Settings.Source.path)) := by
  cases path with
  | some path => rfl
  | none =>
    cases hsource : s.source? with
    | some source =>
      have hfrom := Surroundings.settingsFrom_of_lookUp? (Surroundings.lookUp?_of_source? hsource)
      exact (Surroundings.value_settings_of_source hsource d).trans hfrom.symm
    | none => exact Surroundings.value_settings_of_no_source hsource d

theorem reads_settings (s : Surroundings) (path : Option String) (d : Device) :
    ((settings s path).run d).reads = [] := by
  cases path with
  | some path => rfl
  | none =>
    unfold settings Surroundings.settings
    cases s.source? with
    | some source => rfl
    | none => rfl

/-- What can come of `info`: without settings it looks at nothing, without a report it fails, and
with both it shows the report. -/
inductive Informed (load : Except SettingsFault Settings) (format : Option Format) (d : Device)
    (o : Observed Outcome) : Prop where
  | noSettings (f : SettingsFault) (loaded : load = .error f)
      (value : o.value = .error (.settings f)) (reads : o.reads = []) (device : o.device = d)
  | noReport (settings : Settings) (f : Fault) (loaded : load = .ok settings)
      (report : (Query.report.run d).value = .error f) (value : o.value = .error (.uptime f))
  | reported (settings : Settings) (r : Report) (loaded : load = .ok settings)
      (report : (Query.report.run d).value = .ok r)
      (value : o.value = .ok (shown r (format.getD settings.format)))

theorem informed_run (hread : CommandLine.read? named args = some ⟨.info format, path⟩)
    (s : Surroundings) (d : Device) :
    Informed ((settings s path).run d).value format d ((run s named args).run d) := by
  cases hload : ((settings s path).run d).value with
  | error f =>
    have hrun : (run s named args).run d = (perform s ⟨.info format, path⟩).run d := by
      rw [run, hread]
    simp only [perform, Probe.run_bind, hload, Probe.run_pure, device_settings, reads_settings,
      List.append_nil] at hrun
    exact .noSettings f rfl (by rw [hrun]) (by rw [hrun]) (by rw [hrun])
  | ok settings =>
    have hvalue := value_run_info hread hload
    cases hreport : (Query.report.run d).value with
    | error f =>
      rw [hreport] at hvalue
      exact .noReport settings f rfl hreport hvalue
    | ok r =>
      rw [hreport] at hvalue
      exact .reported settings r rfl hreport hvalue

/-- **What `info` prints,** for every command line that is understood as it: the whole report, in the
format that is given, else in that of the settings, so that it is read back from there. It fails exactly
if there are no settings or, with settings, no report, and then prints nothing; without settings neither
clock nor kernel is read. -/
theorem info_all_or_nothing (s : Surroundings) (named : Option String) (args : List String)
    (d : Device) (hread : CommandLine.read? named args = some ⟨.info format, path⟩) :
    ∃ given, CommandLine.Asks args given (.info format) ∧ path = given.or named ∧
      let loaded := s.loaded (s.consulted given named)
      let report := (Query.report.run d).value
      let o := (run s named args).run d
      (o.value.code ≠ 0 ↔
        (∃ f, loaded = .error f) ∨ (∃ settings, loaded = .ok settings) ∧ ∃ f, report = .error f) ∧
      (o.value.code ≠ 0 → o.value.output = "") ∧
      (∀ settings r, loaded = .ok settings → report = .ok r →
        o.value.code = 0 ∧ o.value.output = shown r (format.getD settings.format) ∧
          (d.now.Regular → r.told = r) ∧
          match format.getD settings.format with
          | .json => Report.ofJson o.value.output.toList = .ok r.told
          | .text => Summary.ofLines? o.value.output.toList =
              some ⟨r.human, r.millis, r.boot, r.told.sampledAt⟩) ∧
      ∀ f, loaded = .error f → o.reads = [] ∧ o.device = d := by
  obtain ⟨given, hasks, hpath, -⟩ := CommandLine.read?_eq_some_iff.1 hread
  refine ⟨given, hasks, hpath, ?_⟩
  intro loaded report o
  have hinformed : Informed loaded format d o := by
    have h := informed_run hread s d
    rw [value_settings, hpath] at h
    exact h
  clear_value loaded o
  cases hinformed with
  | noSettings f hloaded hvalue hreads hdevice =>
    subst hloaded
    simp [hvalue, hreads, hdevice, Outcome.code, Outcome.output]
  | noReport settings f hloaded hreport hvalue =>
    subst hloaded
    simp [report, hreport, hvalue, Outcome.code, Outcome.output]
  | reported settings r hloaded hreport hvalue =>
    subst hloaded
    have hcode : o.value.code = 0 := by
      rw [hvalue]
      rfl
    have houtput : o.value.output = shown r (format.getD settings.format) := by
      rw [hvalue]
      rfl
    refine ⟨by simp [hcode, report, hreport], fun hne => absurd hcode hne, ?_, ?_⟩
    · rintro _ _ ⟨⟩ hr
      obtain rfl := Except.ok.inj (hreport.symm.trans hr)
      have htells := tells_shown hreport (format.getD settings.format)
      refine ⟨hcode, houtput, Query.told_of_report hreport, ?_⟩
      rw [houtput]
      generalize format.getD settings.format = shownAs at htells ⊢
      cases shownAs with
      | text => exact htells
      | json => exact htells
    · intro f hf
      cases hf

/-- A home directory with settings for the directories in it, and files of settings of which one names
no format there is. -/
def furnished : Surroundings :=
  Surroundings.homeWith (.file "[output]\nformat = \"json\"\n".toUTF8)
    [("plain.toml", .file "[output]\nformat = \"text\"\n".toUTF8),
      ("bad.toml", .file "[output]\nformat = \"yaml\"\n".toUTF8)]

/-- The settings that are found have the report in JSON, unless others are named. Settings that are
given and name no format are not made up for by the format that is given or by those that are named. -/
theorem info_of_furnished :
    let found := (run furnished none ["info"]).run .sample
    let named := (run furnished (some "/home/plain.toml") ["info", "--"]).run .sample
    let given := (run furnished (some "/home/plain.toml")
      ["--config=/home/bad.toml", "info", "-fjson"]).run .sample
    (∃ r, (Query.report.run .sample).value = .ok r ∧
        Report.ofJson found.value.output.toList = .ok r ∧ named.value.output = r.lines ∧
        Summary.ofLines? named.value.output.toList = some r.summary) ∧
      found.value.code = 0 ∧ named.value.code = 0 ∧
      given.value.code ≠ 0 ∧ given.value.output = "" ∧ given.reads = [] := by
  intro found named given
  obtain ⟨r, hr, -⟩ := Query.report_of_boot (d := .sample) rfl (by decide) (by decide)
  have hsource : furnished.source?.map Settings.Source.path =
      some "/home/u/.device-uptime.toml" := by decide +kernel
  have hok : ∀ {load : Except SettingsFault Settings} {settings}, load.toOption = some settings →
      load = .ok settings := by
    rintro (f | settings') settings h
    · cases h
    · rw [Option.some.inj h]
  obtain ⟨f, hbad⟩ : ∃ f, furnished.loaded (some "/home/bad.toml") = .error f := by
    have hnone : (furnished.loaded (some "/home/bad.toml")).toOption = none := by decide +kernel
    cases hload : furnished.loaded (some "/home/bad.toml") with
    | error f => exact ⟨f, rfl⟩
    | ok settings =>
      rw [hload] at hnone
      cases hnone
  have hread : CommandLine.read? none ["info"] = some ⟨.info none, none⟩ := by decide +kernel
  have hread' : CommandLine.read? (some "/home/plain.toml") ["info", "--"] =
      some ⟨.info none, some "/home/plain.toml"⟩ := by decide +kernel
  have hread'' : CommandLine.read? (some "/home/plain.toml")
      ["--config=/home/bad.toml", "info", "-fjson"] =
        some ⟨.info (some .json), some "/home/bad.toml"⟩ := by decide +kernel
  obtain ⟨_, -, hpath, -, -, hfound, -⟩ := info_all_or_nothing furnished none _ .sample hread
  obtain ⟨_, -, hpath', -, -, hnamed, -⟩ := info_all_or_nothing furnished _ _ .sample hread'
  obtain ⟨_, -, hpath'', hfails, hnothing, -, hunread⟩ :=
    info_all_or_nothing furnished _ _ .sample hread''
  rw [Surroundings.consulted, ← hpath, hsource] at hfound
  rw [Surroundings.consulted, ← hpath'] at hnamed
  rw [Surroundings.consulted, ← hpath''] at hfails hunread
  obtain ⟨hcode, -, htold, hjson⟩ := hfound { format := .json } r (hok (by decide +kernel)) hr
  obtain ⟨hcode', hlines, -, htext⟩ := hnamed { format := .text } r (hok (by decide +kernel)) hr
  have hwhole : r.told = r := htold (by decide)
  have hfailed := hfails.2 (.inl ⟨f, hbad⟩)
  rw [hwhole] at htext
  exact ⟨⟨r, hr, hwhole ▸ hjson, hlines, htext⟩, hcode, hcode', hfailed, hnothing hfailed,
    (hunread f hbad).1⟩

end Program

end BootClock
