import BootClock.Proofs.Sentinel
/-!
# Reports of one sample

One reading of the clock and one answer of the kernel settle whether a device has an uptime to tell
(`Device.refusal?`), and the same two make the uptime and the report. So the numbers of a report belong
together (`Report.Coherent`) however the clock goes on after the reading, and no question reads more
than that, whether it is answered or refused (`report_of_one_sample`).
-/

namespace BootClock

/-! ## Looking at a device -/

/-- What comes of a question that reads the clock once, then asks the kernel once, and does nothing
else. -/
def Device.lookedAt {α : Type} (d : Device) (value : α) : Observed α :=
  ⟨value, d.ticked, [.clock, .kernel], []⟩

/-! ## Reports -/

/-- The fields of a report belong together: the numbers add up to the clock reading, and the words are
those of the seconds. -/
structure Report.Coherent (r : Report) : Prop where
  boot_pos : 1 ≤ r.boot.toInt
  seconds_nonneg : 0 ≤ r.seconds.toInt
  millis_eq : r.millis.toInt = 1000 * r.seconds.toInt
  boot_add_seconds : r.boot.toInt + r.seconds.toInt = r.sampledAt.secs
  human_eq : r.human = String.ofList (Uptime.writeSeconds r.seconds.toInt.toNat)

namespace Query

/-- A sample's report belongs together if its uptime is the time between its boot and its reading. -/
theorem coherent_of_sample {s : Sample} (hle : s.boot.secs.toInt ≤ s.now.secs)
    (h : s.uptime.millis.toInt = (s.now.secs - s.boot.secs.toInt) * 1000) :
    (Report.of s.uptime s.boot s.now).Coherent := by
  have hpos := s.boot.pos
  have hseconds := Uptime.seconds_of_millis h
  constructor <;> dsimp only [Report.of]
  · omega
  · omega
  · omega
  · omega
  · rfl

variable (d : Device)

/-- **One look, one report.** Whatever the kernel answers and however far the clock goes on at a
reading, the clock is read once and then the kernel is asked once. A device that refuses an uptime
refuses both the report and the uptime alone, with the same fault; otherwise the report's fields belong
together, its boot time is the kernel's answer and its clock reading the one that was made, and the
uptime asked for alone is the one in the report. -/
theorem report_of_one_sample :
    match d.refusal? with
    | some f => report.run d = d.lookedAt (.error f) ∧ uptime.run d = d.lookedAt (.error f)
    | none => ∃ r u, report.run d = d.lookedAt (.ok r) ∧ uptime.run d = d.lookedAt (.ok u) ∧
        r.Coherent ∧ d.kernel = .answers r.boot ∧ r.sampledAt = d.now ∧ u.millis = r.millis := by
  cases h : d.refusal? with
  | some f =>
    have hsample := sampleOf_of_refusal h
    constructor
    · rw [run_report, hsample]
      rfl
    · rw [run_uptime, hsample]
      rfl
  | none =>
    obtain ⟨boot, hk, hpos, hle⟩ := Device.refusal?_eq_none_iff.1 h
    obtain ⟨s, hsample, rfl, hnow, hmillis⟩ := sampleOf_of_boot hk hpos hle
    rw [← hnow] at hle hmillis
    refine ⟨Report.of s.uptime s.boot s.now, s.uptime, ?_, ?_, coherent_of_sample hle hmillis, hk,
      hnow, rfl⟩
    · rw [run_report, hsample]
      rfl
    · rw [run_uptime, hsample]
      rfl

end Query

end BootClock
