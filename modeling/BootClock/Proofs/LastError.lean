import BootClock.Host.Run
import BootClock.Proofs.ReportText
import BootClock.Proofs.Sentinel
/-!
# The recorded failure of a thread

Three calls can fail, and each of them, an `Attempt`, settles what its thread has recorded: the
message of what its look at the device failed with, or nothing (`Attempt.recorded`). No other step
changes it, so after any steps it is what the latest attempt left (`thread_run`). Asked for it, a
thread answers that message exactly if the latest attempt answered a failure and the message is a C
string (`lastError_run`).
-/

namespace BootClock

/-- What a look at the device fails with, if it does. -/
def Device.fault? (d : Device) : Option Fault :=
  match (Query.sample.run d).value with
  | .ok _ => none
  | .error f => some f

/-- A look fails with what the device refuses an uptime for. -/
theorem Device.fault?_eq_refusal? (d : Device) : d.fault? = d.refusal? := by
  rw [fault?, Query.run_sample]
  cases h : d.refusal? with
  | some f => rw [Query.sampleOf_of_refusal h]
  | none =>
    obtain ⟨boot, hk, hpos, hle⟩ := refusal?_eq_none_iff.1 h
    obtain ⟨s, hs, -⟩ := Query.sampleOf_of_boot hk hpos hle
    rw [hs]

namespace Host

/-! ## C strings -/

theorem nulAt?_eq_none_iff {s : String} : nulAt? s = none ↔ '\x00' ∉ s.toList := by
  simp only [nulAt?, List.findIdx?_eq_none_iff, beq_eq_false_iff_ne]
  exact ⟨fun h hmem => h _ hmem rfl, fun h c hc heq => h (heq ▸ hc)⟩

theorem cString?_eq_some_iff {s t : String} : cString? s = some t ↔ t = s ∧ '\x00' ∉ s.toList := by
  rw [← nulAt?_eq_none_iff, cString?]
  cases nulAt? s <;> simp [eq_comm]

theorem cString?_eq_none_iff {s : String} : cString? s = none ↔ '\x00' ∈ s.toList := by
  rw [← Decidable.not_iff_not, ← nulAt?_eq_none_iff, cString?]
  cases nulAt? s <;> simp

/-- A written report is a C string. -/
theorem nulAt?_json (r : Report) : nulAt? r.json = none := by
  rw [nulAt?_eq_none_iff, Report.json, String.toList_ofList]
  intro hmem
  exact absurd (Report.le_toNat_of_mem_compact hmem) (by decide)

/-! ## Calls -/

/-- The calls that look at the device. -/
def Call.canFail : Call → Bool
  | .uptimeMillis | .deviceUptime | .reportJson => true
  | .lastError | .release _ | .releaseNull | .version => false

/-- The number or the null pointer that a failure is answered with. -/
def Answer.isFailure : Answer → Bool
  | .number n => n == unknownUptime
  | .text s => s.isNone
  | .nothing => false

/-- What a thread has recorded after a call that can fail looked at the device. -/
def recordedOf (d : Device) : Thread := { lastError := d.fault?.bind fun f => cString? f.message }

variable {c : Call}

theorem value_uptimeMillis (d : Device) :
    (uptimeMillis.run d).value = (.number (Query.millis.run d).value, recordedOf d) := by
  rw [Query.value_millis]
  simp only [uptimeMillis, Probe.run_bind, recordedOf, Device.fault?, Query.run_uptime,
    Query.run_sample]
  cases Query.sampleOf d.now d.kernel.bootTime with
  | ok s => rfl
  | error f => rfl

theorem ending_of_error (f : Fault) : ending (.error f) = .unanswered f := rfl

theorem ending_of_json? {r : Report} {text : String} (h : r.json? = some text)
    (hnul : nulAt? text = none) : ending (.ok r) = .given text := by
  unfold ending
  dsimp only
  rw [h]
  dsimp only
  rw [hnul]

/-- No report ends the call without its text. -/
theorem ending_of_ok (r : Report) : ending (.ok r) = .given r.json :=
  ending_of_json? (Report.json?_eq_json r) (nulAt?_json r)

theorem value_reportJson (d : Device) : (reportJson.run d).value =
    (.text ((Query.report.run d).value.toOption.map Report.json), recordedOf d) := by
  simp only [reportJson, Probe.run_bind, recordedOf, Device.fault?, Query.run_report,
    Query.run_sample]
  cases Query.sampleOf d.now d.kernel.bootTime with
  | ok s =>
    simp only [Except.map, ending_of_ok]
    rfl
  | error f => rfl

/-- The number of an unknown uptime stands for a fault and for nothing else. -/
theorem millis_eq_unknown_iff (d : Device) :
    (Query.millis.run d).value = unknownUptime ↔ ∃ f, d.fault? = some f := by
  rw [Query.value_millis, Query.run_uptime, Device.fault?, Query.run_sample]
  cases Query.sampleOf d.now d.kernel.bootTime with
  | ok s => simp [Except.map, Uptime.sentinel, s.uptime.millis_ne_unknown]
  | error f => simp [Except.map, Uptime.sentinel]

theorem json_eq_none_iff (d : Device) :
    (Query.report.run d).value.toOption.map Report.json = none ↔ ∃ f, d.fault? = some f := by
  rw [Query.run_report, Device.fault?, Query.run_sample]
  cases Query.sampleOf d.now d.kernel.bootTime with
  | ok s => simp [Except.map, Except.toOption]
  | error f => simp [Except.map, Except.toOption]

/-- A call that can fail answers a failure exactly if its look at the device failed. -/
theorem isFailure_call_iff (t : Thread) (hc : c.canFail = true) (d : Device) :
    ((call t c).run d).value.1.isFailure = true ↔ ∃ f, d.fault? = some f := by
  cases c with
  | uptimeMillis | deviceUptime =>
    rw [← millis_eq_unknown_iff, call, value_uptimeMillis]
    exact beq_iff_eq
  | reportJson =>
    rw [← json_eq_none_iff, call, value_reportJson]
    exact Option.isNone_iff_eq_none
  | lastError | release | releaseNull | version => cases hc

theorem thread_call (t : Thread) (c : Call) (d : Device) :
    ((call t c).run d).value.2 = if c.canFail then recordedOf d else t := by
  cases c with
  | uptimeMillis | deviceUptime => exact congrArg Prod.snd (value_uptimeMillis d)
  | reportJson => exact congrArg Prod.snd (value_reportJson d)
  | lastError | release | releaseNull | version => rfl

/-! ## Runs -/

/-- A call that can fail, as a thread made it on a device. -/
structure Attempt where
  thread : Thread
  call : Call
  device : Device
  canFail : call.canFail = true

namespace Attempt

def answer (a : Attempt) : Answer := ((Host.call a.thread a.call).run a.device).value.1

/-- What the thread has recorded after it. -/
def recorded (a : Attempt) : Thread := recordedOf a.device

theorem isFailure_answer_iff (a : Attempt) :
    a.answer.isFailure = true ↔ ∃ f, a.device.fault? = some f :=
  isFailure_call_iff a.thread a.canFail a.device

end Attempt

namespace Running

/-- The attempt that a step is, if it is one. What a thread started by it does is none. -/
def attempt? (r : Running) : Step → Option Attempt
  | .call c => if h : c.canFail = true then some ⟨r.thread, c, r.device, h⟩ else none
  | .exchange _ | .thread _ => none

/-- The latest attempt of a run, `last` if there was none. -/
def latest (r : Running) (last : Option Attempt) : List Step → Option Attempt
  | [] => last
  | s :: steps => (step r s).2.latest ((r.attempt? s).or last) steps

end Running

theorem thread_moved (r : Running) (d : Device) : (r.moved d).thread = r.thread := by
  unfold Running.moved
  split <;> rfl

/-- Only an attempt changes what is recorded. -/
theorem thread_step (r : Running) (s : Step) :
    (step r s).2.thread = (r.attempt? s).elim r.thread Attempt.recorded := by
  cases s with
  | call c =>
    simp only [step, thread_call, Running.attempt?]
    split <;> rfl
  | exchange device => rfl
  | thread steps => simp only [step, thread_moved]; rfl

theorem thread_run (steps : List Step) {r : Running} {last : Option Attempt}
    (h : r.thread = last.elim {} Attempt.recorded) :
    (run r steps).2.thread = (r.latest last steps).elim {} Attempt.recorded := by
  induction steps generalizing r last with
  | nil => exact h
  | cons s steps ih =>
    simp only [run, Running.latest]
    refine ih ?_
    rw [thread_step, h]
    cases r.attempt? s <;> rfl

/-- **The recorded failure** of a thread, whatever it did before: a message is answered exactly if
the latest attempt answered a failure, it is the message of that attempt's fault, and it holds no
NUL; and a null pointer otherwise. -/
theorem lastError_run (device : Device) (steps : List Step) :
    let r := (run (.new device) steps).2
    let latest := (Running.new device).latest none steps
    let answer := ((call r.thread .lastError).run r.device).value.1
    (∀ message, answer = .text (some message) ↔
      ∃ a f, latest = some a ∧ a.answer.isFailure = true ∧ a.device.fault? = some f ∧
        message = f.message ∧ '\x00' ∉ f.message.toList) ∧
    (answer = .text none ↔ ∀ a, latest = some a → a.answer.isFailure = true →
      ∃ f, a.device.fault? = some f ∧ '\x00' ∈ f.message.toList) := by
  intro r latest answer
  have hthread : r.thread = latest.elim {} Attempt.recorded := thread_run steps rfl
  have hanswer : answer = .text (latest.elim {} Attempt.recorded).lastError := by
    rw [← hthread]
    rfl
  rw [hanswer]
  cases latest with
  | none => simp
  | some a =>
    have hfailure := a.isFailure_answer_iff
    cases hf : a.device.fault? with
    | none =>
      have hsucceeded : a.answer.isFailure = false := by simpa [hf] using hfailure
      simp [Attempt.recorded, recordedOf, hf, hsucceeded]
    | some f =>
      simp [Attempt.recorded, recordedOf, hf, hfailure, cString?_eq_some_iff, cString?_eq_none_iff]

/-- A message that holds a NUL is not recorded: the call answers -1, and the thread knows of no
failure. -/
theorem lastError_null_after_failure :
    let device : Device := { Device.sample with kernel := .fails (.custom "a\x00b") }
    let r := (run (.new device) [.call .uptimeMillis]).2
    ((call {} .uptimeMillis).run device).value.1 = .number (-1) ∧
      device.fault? = some (.query (.custom "a\x00b")) ∧
      ((call r.thread .lastError).run r.device).value.1 = .text none := by
  intro device r
  exact ⟨by decide +kernel, by decide +kernel, by decide +kernel⟩

end Host

end BootClock
