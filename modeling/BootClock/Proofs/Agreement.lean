import BootClock.Proofs.Invocation
import BootClock.Proofs.LastError
import BootClock.Proofs.NearestSettings
import BootClock.Proofs.ReportLines
/-!
# All ways to ask agree

The uptime of a device can be asked for as a value, as a number and in a report; a host program has
three calls for it, and the program two commands. Each of them comes down to one sample of the device
(`value_uptimeMillis`, `value_reportJson`, `value_run_info`), so with the same reading either
all of them tell the same uptime, `Ways.Known`, or all of them tell that it is unknown and, where they
can, for which cause, `Ways.Unknown` (`known_or_unknown`). What is printed or handed over as a text
counts as telling what is read back from it.
-/

namespace BootClock

/-! ## Samples -/

namespace Query

/-- The boot time of a sample is the one that the kernel told. -/
theorem bootTime_of_sampleOf {s : Sample} {now : Instant} {answer : Except Fault BootTime}
    (h : sampleOf now answer = .ok s) : answer = .ok s.boot := by
  cases answer with
  | error f => cases h
  | ok boot =>
    simp only [sampleOf, bind, Except.bind] at h
    cases hsince : Uptime.since boot now.seconds with
    | error f =>
      rw [hsince] at h
      cases h
    | ok u =>
      rw [hsince] at h
      cases h
      rfl

end Query

/-! ## Calls of a host program -/

namespace Host

/-- The two calls for the number are one call under two names. -/
def Call.asksNumber : Call → Bool
  | .uptimeMillis | .deviceUptime => true
  | .reportJson | .lastError | .release _ | .releaseNull | .version => false

theorem value_call_number {c : Call} (hc : c.asksNumber = true) (t : Thread) (d : Device) :
    ((call t c).run d).value = (.number (Query.millis.run d).value, recordedOf d) := by
  cases c with
  | uptimeMillis | deviceUptime => exact value_uptimeMillis d
  | reportJson | lastError | release | releaseNull | version => cases hc

end Host

/-! ## Commands of the program -/

namespace Program

variable {s : Surroundings} {named path : Option String} {args : List String} {d : Device}

/-- Loading settings leaves the device as it is. -/
theorem device_settings (s : Surroundings) (path : Option String) (d : Device) :
    ((settings s path).run d).device = d := by
  cases path with
  | some path => rfl
  | none =>
    unfold settings Surroundings.settings
    cases s.source? with
    | some source => rfl
    | none => rfl

theorem value_run_of_millis (hread : CommandLine.read? named args = some ⟨.millis, path⟩)
    (s : Surroundings) (d : Device) :
    ((run s named args).run d).value = .ok (line (Query.millis.run d).value) := by
  unfold run
  rw [hread]
  exact value_perform_millis s path d

theorem value_run_of_bootTime (hread : CommandLine.read? named args = some ⟨.bootTime, path⟩)
    (s : Surroundings) {b : BootTime} (hb : d.kernel.bootTime = .ok b) :
    ((run s named args).run d).value = .ok (line b.secs) := by
  unfold run
  rw [hread]
  simp only [perform, Query.bootTime, Probe.run_bind, Probe.run_askKernel, hb, Probe.run_pure]

/-- Once its settings are loaded, `info` shows the report in the format that holds, or fails with what
the report failed with. -/
theorem value_run_info {format : Option Format} {settings : Settings}
    (hread : CommandLine.read? named args = some ⟨.info format, path⟩)
    (hload : ((Program.settings s path).run d).value = .ok settings) :
    ((run s named args).run d).value = match (Query.report.run d).value with
      | .ok r => .ok (shown r (format.getD settings.format))
      | .error f => .error (.uptime f) := by
  unfold run
  rw [hread]
  simp only [perform, Probe.run_bind, hload, device_settings, info]
  cases (Query.report.run d).value with
  | ok r => rfl
  | error f => rfl

end Program

/-! ## All of them -/

/-- The ways to ask one device for its uptime, beside asking it directly: a thread of a host program
that makes calls, and the program with a command line for each of its commands. -/
structure Ways where
  device : Device
  thread : Host.Thread
  surroundings : Surroundings
  named : Option String
  millisArgs : List String
  infoArgs : List String
  bootTimeArgs : List String

namespace Ways

variable (w : Ways)

/-- What a call answers, and what the thread remembers after it. -/
def called (c : Host.Call) : Host.Answer × Host.Thread := ((Host.call w.thread c).run w.device).value

/-- What comes of a run with these arguments. -/
def ran (args : List String) : Program.Outcome :=
  ((Program.run w.surroundings w.named args).run w.device).value

/-- Each command line asks for its command, and there are settings for the report, by which it is shown
in that format. -/
structure Understood (format : Format) : Prop where
  millis : ∃ path, CommandLine.read? w.named w.millisArgs = some ⟨.millis, path⟩
  info : ∃ option path settings,
    CommandLine.read? w.named w.infoArgs = some ⟨.info option, path⟩ ∧
      ((Program.settings w.surroundings path).run w.device).value = .ok settings ∧
      format = option.getD settings.format
  bootTime : ∃ path, CommandLine.read? w.named w.bootTimeArgs = some ⟨.bootTime, path⟩

/-- Every way tells this uptime, which is in this report. -/
structure Known (format : Format) (u : Uptime) (r : Report) : Prop where
  uptime : (Query.uptime.run w.device).value = .ok u
  number : (Query.millis.run w.device).value = u.millis
  number_ne : u.millis ≠ -1
  report : (Query.report.run w.device).value = .ok r
  report_millis : r.millis = u.millis
  called_number : ∀ c, c.asksNumber = true → w.called c = (.number u.millis, {})
  /-- What is told of the report is all of it, but in leap seconds elsewhere than at the end of a
  minute. -/
  told : w.device.now.Regular → r.told = r
  called_report : ∃ json, w.called .reportJson = (.text (some json), {}) ∧
    Report.ofJson json.toList = .ok r.told
  ran_millis : w.ran w.millisArgs = .ok (Numeral.intText u.millis.toInt ++ "\n")
  ran_info : ∃ text, w.ran w.infoArgs = .ok text ∧ text = Program.shown r format ∧
    match format with
    | .text => Summary.ofLines? text.toList = some ⟨u.human, u.millis, r.boot, r.told.sampledAt⟩
    | .json => ∃ r', Report.ofJson text.toList = .ok r' ∧ r' = r.told ∧
        r'.millis = u.millis ∧ r'.seconds = u.seconds ∧ r'.human = u.human ∧ r'.boot = r.boot
  ran_bootTime : w.ran w.bootTimeArgs = .ok (Numeral.intText r.boot.toInt ++ "\n")

/-- Every way tells that the uptime is unknown, and those that tell a cause tell this one. -/
structure Unknown (f : Fault) : Prop where
  uptime : (Query.uptime.run w.device).value = .error f
  number : (Query.millis.run w.device).value = -1
  report : (Query.report.run w.device).value = .error f
  called_number : ∀ c, c.asksNumber = true → (w.called c).1 = .number (-1)
  called_report : (w.called .reportJson).1 = .text none
  recorded : ∀ c, c.canFail = true → '\x00' ∉ f.message.toList →
    (w.called c).2.lastError = some f.message
  ran_millis : w.ran w.millisArgs = .ok "-1\n"
  ran_info : w.ran w.infoArgs = .error (.uptime f)
  code_info : (w.ran w.infoArgs).code ≠ 0

variable {w} {format : Format} {s : Query.Sample} {f : Fault}

theorem known_of_sample (h : w.Understood format)
    (hs : Query.sampleOf w.device.now w.device.kernel.bootTime = .ok s) :
    w.Known format s.uptime (Report.of s.uptime s.boot s.now) := by
  obtain ⟨⟨path, hmillis⟩, ⟨option, path', settings, hinfo, hload, hformat⟩, ⟨path'', hboot⟩⟩ := h
  have huptime : (Query.uptime.run w.device).value = .ok s.uptime := by
    rw [Query.run_uptime, hs]
    rfl
  have hreport : (Query.report.run w.device).value =
      .ok (Report.of s.uptime s.boot s.now) := by
    rw [Query.run_report, hs]
    rfl
  have hnumber : (Query.millis.run w.device).value = s.uptime.millis := by
    rw [Query.value_millis, huptime]
    rfl
  have hrecorded : Host.recordedOf w.device = {} := by
    unfold Host.recordedOf Device.fault?
    rw [Query.run_sample, hs]
    rfl
  have htells := Program.tells_shown hreport format
  refine ⟨huptime, hnumber, s.uptime.millis_ne_unknown, hreport, rfl, ?_,
    Query.told_of_report hreport, ?_, ?_, ?_, ?_⟩
  · intro c hc
    rw [called, Host.value_call_number hc, hnumber, hrecorded]
  · refine ⟨(Report.of s.uptime s.boot s.now).json, ?_, ?_⟩
    · rw [called, Host.call, Host.value_reportJson, hreport, hrecorded]
      rfl
    · exact Report.ofJson_compact _
  · rw [ran, Program.value_run_of_millis hmillis, hnumber]
    rfl
  · refine ⟨Program.shown _ format, ?_, rfl, ?_⟩
    · rw [ran, Program.value_run_info hinfo hload, hreport, hformat]
    · cases format with
      | text => exact htells
      | json => exact ⟨_, htells, rfl, rfl, rfl, rfl, rfl⟩
  · rw [ran, Program.value_run_of_bootTime hboot _ (Query.bootTime_of_sampleOf hs)]
    rfl

theorem unknown_of_fault (h : w.Understood format)
    (hf : Query.sampleOf w.device.now w.device.kernel.bootTime = .error f) : w.Unknown f := by
  obtain ⟨⟨path, hmillis⟩, ⟨option, path', settings, hinfo, hload, -⟩, -⟩ := h
  have huptime : (Query.uptime.run w.device).value = .error f := by
    rw [Query.run_uptime, hf]
    rfl
  have hreport : (Query.report.run w.device).value = .error f := by
    rw [Query.run_report, hf]
    rfl
  have hnumber : (Query.millis.run w.device).value = -1 := by
    rw [Query.value_millis, huptime]
    rfl
  have hfault : w.device.fault? = some f := by
    unfold Device.fault?
    rw [Query.run_sample, hf]
  have hran : w.ran w.infoArgs = .error (.uptime f) := by
    rw [ran, Program.value_run_info hinfo hload, hreport]
  refine ⟨huptime, hnumber, hreport, ?_, ?_, ?_, ?_, hran, ?_⟩
  · intro c hc
    rw [called, Host.value_call_number hc, hnumber]
  · rw [called, Host.call, Host.value_reportJson, hreport]
    rfl
  · intro c hc hnul
    rw [called, Host.thread_call, if_pos hc, Host.recordedOf, hfault]
    exact Host.cString?_eq_some_iff.2 ⟨rfl, hnul⟩
  · rw [ran, Program.value_run_of_millis hmillis, hnumber]
    rfl
  · rw [hran]
    exact Nat.one_ne_zero

/-- **All ways agree**, whatever the kernel answers and the clock reads: each of them tells the same
uptime, or each of them fails and tells no other cause than the others. -/
theorem known_or_unknown (h : w.Understood format) :
    (∃ u r, w.Known format u r) ∨ ∃ f, w.Unknown f := by
  cases hs : Query.sampleOf w.device.now w.device.kernel.bootTime with
  | ok s => exact .inl ⟨s.uptime, _, known_of_sample h hs⟩
  | error f => exact .inr ⟨f, unknown_of_fault h hs⟩

/-- The ways into a device around which there are no files, with the report in a format. -/
def plain (device : Device) (format : Format) : Ways where
  device := device
  thread := {}
  surroundings := Program.bare
  named := none
  millisArgs := ["millis"]
  infoArgs := ["info", "--format", format.name]
  bootTimeArgs := ["boot-time"]

/-- Every way tells a hundred seconds. With a boot time ahead of the clock every way to the uptime
fails, though the boot time itself is still printed. -/
theorem known_and_unknown :
    let ahead : Device := { Device.sample with kernel := .answers 2000000 }
    (∀ format, ∃ u r, (plain .sample format).Known format u r ∧ u.millis = 100000) ∧
      (∃ f, (plain ahead .text).Unknown f ∧ f = .clockBeforeBoot 1000100 2000000) ∧
      (plain ahead .text).ran ["boot-time"] = .ok (Program.line 2000000) := by
  intro ahead
  have hmillis : CommandLine.read? none ["millis"] = some ⟨.millis, none⟩ := by decide +kernel
  have hinfo : ∀ format : Format, CommandLine.read? none ["info", "--format", format.name] =
      some ⟨.info (some format), none⟩ := by
    intro format
    cases format <;> decide +kernel
  have hboot : CommandLine.read? none ["boot-time"] = some ⟨.bootTime, none⟩ := by decide +kernel
  have hsource : Program.bare.source? = none := by decide +kernel
  have hunderstood : ∀ d format, (plain d format).Understood format := by
    intro d format
    have hload := Surroundings.value_settings_of_no_source hsource d
    exact ⟨⟨none, hmillis⟩, ⟨some format, none, {}, hinfo format, hload, rfl⟩, ⟨none, hboot⟩⟩
  let boot : BootTime := ⟨2000000, by decide⟩
  have hahead : ahead.kernel.bootTime = .ok boot := BootTime.ofSeconds_eq_ok_iff.2 rfl
  have hbefore : (1000100 : Int64).toInt < boot.secs.toInt := by decide
  have hprinted := Program.value_run_of_bootTime hboot Program.bare hahead
  refine ⟨?_, ?_, hprinted⟩
  · intro format
    have hnumber : (Query.millis.run .sample).value = 100000 := by decide +kernel
    rcases known_or_unknown (hunderstood .sample format) with ⟨u, r, h⟩ | ⟨f, h⟩
    · exact ⟨u, r, h, h.number.symm.trans hnumber⟩
    · exact absurd (h.number.symm.trans hnumber) (by decide)
  · have hseconds : ahead.now.seconds = 1000100 := by decide
    have huptime : (Query.uptime.run ahead).value = .error (.clockBeforeBoot 1000100 2000000) := by
      rw [Query.run_uptime, hahead, Query.sampleOf, hseconds]
      simp only [bind, Except.bind, Uptime.since_of_lt hbefore, boot, Except.map]
    rcases known_or_unknown (hunderstood ahead .text) with ⟨u, r, h⟩ | ⟨f, h⟩
    · cases h.uptime.symm.trans huptime
    · exact ⟨f, h, Except.error.inj (h.uptime.symm.trans huptime)⟩

end Ways

end BootClock
