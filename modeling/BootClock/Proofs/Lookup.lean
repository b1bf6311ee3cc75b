import BootClock.Proofs.ExactUptime
import BootClock.Proofs.Shift
import BootClock.Service.Run
/-!
# Looking up the boot time

The kernel counts in whole seconds and the clock in milliseconds. A look-up succeeds exactly if the
kernel's boot time is positive and not ahead of the clock (`report_ok_iff`), and it gives that boot
time plus the milliseconds that the clock reading is into its second (`toInt_bootOf`). Otherwise the
device refuses it for one of five causes (`Device.refusal?`, `sampleOf_of_refusal`).
-/

namespace BootClock

/-! ## Why a device has no uptime to tell -/

/-- Why the device has no uptime to tell, if it has none. -/
def Device.refusal? (d : Device) : Option Fault :=
  match d.kernel with
  | .fails cause => some (.query cause)
  | .unsupported => some .unsupported
  | .answers boot =>
    if boot.toInt = 0 then some .bootTimeUnset
    else if boot.toInt < 0 then some (.bootTimeNegative boot)
    else if d.now.secs < boot.toInt then some (.clockBeforeBoot d.now.seconds boot)
    else none

theorem Device.refusal?_eq_none_iff {d : Device} : d.refusal? = none ↔
    ∃ boot, d.kernel = .answers boot ∧ 1 ≤ boot.toInt ∧ boot.toInt ≤ d.now.secs := by
  unfold refusal?
  cases d.kernel with
  | fails cause => simp
  | unsupported => simp
  | answers boot => grind

theorem Device.refusal?_ne_overflow {d : Device} {f : Fault} (h : d.refusal? = some f) :
    f ≠ .overflow := by
  rintro rfl
  unfold refusal? at h
  cases hk : d.kernel <;> grind

theorem BootTime.ofSeconds_of_nonpos {secs : Int64} (h : secs.toInt ≤ 0) :
    ofSeconds secs = .error (if secs.toInt = 0 then .bootTimeUnset else .bootTimeNegative secs) :=
  dif_neg (Int.not_lt.2 h)

namespace Query

variable {d : Device} {f : Fault}

theorem sampleOf_of_refusal (h : d.refusal? = some f) :
    sampleOf d.now d.kernel.bootTime = .error f := by
  unfold Device.refusal? at h
  cases hk : d.kernel with
  | fails cause =>
    rw [hk] at h
    cases h
    rfl
  | unsupported =>
    rw [hk] at h
    cases h
    rfl
  | answers boot =>
    simp only [hk] at h
    by_cases hpos : 0 < boot.toInt
    · -- A positive answer is refused only because the clock is behind it.
      let b : BootTime := ⟨boot, hpos⟩
      have hboot : BootTime.ofSeconds boot = .ok b := BootTime.ofSeconds_eq_ok_iff.2 rfl
      rw [if_neg (by omega), if_neg (by omega)] at h
      split at h
      · next hlt =>
        cases h
        have hbefore : d.now.seconds.toInt < b.secs.toInt := d.now.toInt_seconds ▸ hlt
        simp only [Kernel.bootTime, hboot, sampleOf, bind, Except.bind, Uptime.since_of_lt hbefore, b]
      · cases h
    · rw [Kernel.bootTime, BootTime.ofSeconds_of_nonpos (Int.not_lt.1 hpos)]
      split at h
      · next hzero =>
        cases h
        rw [if_pos hzero]
        rfl
      · next hzero =>
        rw [if_pos (by omega)] at h
        cases h
        rw [if_neg hzero]
        rfl

/-! ## What a look-up gives -/

theorem run_report (d : Device) : report.run d =
    ⟨(sampleOf d.now d.kernel.bootTime).map fun s => Report.of s.uptime s.boot s.now, d.ticked,
      [.clock, .kernel], []⟩ := by
  simp [report, Probe.run_bind, run_sample]

/-- No uptime of an instant overflows, so the count is that of the seconds since boot. -/
theorem sampleOf_of_boot {boot : Int64} (hk : d.kernel = .answers boot) (hpos : 1 ≤ boot.toInt)
    (hle : boot.toInt ≤ d.now.secs) :
    ∃ s, sampleOf d.now d.kernel.bootTime = .ok s ∧ s.boot.secs = boot ∧ s.now = d.now ∧
      s.uptime.millis.toInt = (d.now.secs - boot.toInt) * 1000 := by
  have hlast := d.now.le_last
  have hsecs := d.now.toInt_seconds
  unfold Instant.lastSecond at hlast
  let b : BootTime := ⟨boot, hpos⟩
  have hb : BootTime.ofSeconds boot = .ok b := BootTime.ofSeconds_eq_ok_iff.2 rfl
  have hbefore : b.secs.toInt ≤ d.now.seconds.toInt := hsecs ▸ hle
  have hfits : Fits ((d.now.seconds.toInt - b.secs.toInt) * 1000) := by
    unfold Fits
    dsimp only [b]
    omega
  obtain ⟨u, hu, hmillis⟩ := Uptime.since_of_fits hbefore hfits
  refine ⟨⟨u, b, d.now⟩, ?_, rfl, rfl, hsecs ▸ hmillis⟩
  simp [hk, Kernel.bootTime, hb, sampleOf, bind, Except.bind, hu, pure, Except.pure]

/-- Whatever else the kernel answers is a fault, and none of them is an overflow. -/
theorem sampleOf_of_not_boot
    (h : ¬ ∃ boot, d.kernel = .answers boot ∧ 1 ≤ boot.toInt ∧ boot.toInt ≤ d.now.secs) :
    ∃ f, sampleOf d.now d.kernel.bootTime = .error f ∧ f ≠ .overflow := by
  cases hr : d.refusal? with
  | none => exact absurd (Device.refusal?_eq_none_iff.1 hr) h
  | some f => exact ⟨f, sampleOf_of_refusal hr, Device.refusal?_ne_overflow hr⟩

theorem report_of_boot {boot : Int64} (hk : d.kernel = .answers boot) (hpos : 1 ≤ boot.toInt)
    (hle : boot.toInt ≤ d.now.secs) :
    ∃ r, (report.run d).value = .ok r ∧ r.sampledAt = d.now ∧
      r.millis.toInt = (d.now.secs - boot.toInt) * 1000 := by
  obtain ⟨s, hs, -, hnow, hmillis⟩ := sampleOf_of_boot hk hpos hle
  refine ⟨Report.of s.uptime s.boot s.now, ?_, hnow, hmillis⟩
  simp only [run_report, hs, Except.map]

theorem report_ok_iff : (∃ r, (report.run d).value = .ok r) ↔
    ∃ boot, d.kernel = .answers boot ∧ 1 ≤ boot.toInt ∧ boot.toInt ≤ d.now.secs := by
  constructor
  · rintro ⟨r, hr⟩
    refine Classical.byContradiction fun h => ?_
    obtain ⟨f, hf, -⟩ := sampleOf_of_not_boot h
    simp [run_report, hf, Except.map] at hr
  · rintro ⟨boot, hk, hpos, hle⟩
    obtain ⟨r, hr, -⟩ := report_of_boot hk hpos hle
    exact ⟨r, hr⟩

/-- The boot time that a look-up gives: the kernel's, and what the clock is into its second. -/
theorem toInt_bootOf {boot : Int64} (hk : d.kernel = .answers boot) (hpos : 1 ≤ boot.toInt)
    (hle : boot.toInt ≤ d.now.secs) :
    ∃ r, (report.run d).value = .ok r ∧
      (Service.bootOf r).toInt = boot.toInt * 1000 + d.now.phase := by
  obtain ⟨r, hr, hnow, hmillis⟩ := report_of_boot hk hpos hle
  have hread := d.now.toInt_millis_eq_phase
  have hfits := fits_toInt d.now.millis
  refine ⟨r, hr, ?_⟩
  have hsub : (Service.bootOf r).toInt = r.sampledAt.millis.toInt - r.millis.toInt := by
    apply Saturating.toInt_sub_of_fits
    rw [hnow, hmillis]
    unfold Fits at hfits ⊢
    have := d.now.phase_nonneg
    omega
  rw [hsub, hnow, hmillis, hread]
  omega

/-- A report comes from a clock reading and a boot time that is not ahead of it, and tells them. -/
theorem boot_of_report {r : Report} (h : (report.run d).value = .ok r) :
    ∃ boot : Int64, d.kernel = .answers boot ∧ 1 ≤ boot.toInt ∧ boot.toInt ≤ d.now.secs ∧
      r.sampledAt = d.now ∧ r.millis.toInt = (d.now.secs - boot.toInt) * 1000 ∧
      (Service.bootOf r).toInt = boot.toInt * 1000 + d.now.phase := by
  obtain ⟨boot, hk, hpos, hle⟩ := report_ok_iff.1 ⟨r, h⟩
  obtain ⟨r₁, hr₁, hnow, hmillis⟩ := report_of_boot hk hpos hle
  obtain ⟨r₂, hr₂, hboot⟩ := toInt_bootOf hk hpos hle
  obtain rfl : r = r₁ := Except.ok.inj (h.symm.trans hr₁)
  obtain rfl : r = r₂ := Except.ok.inj (h.symm.trans hr₂)
  exact ⟨boot, hk, hpos, hle, hnow, hmillis, hboot⟩

theorem sampledAt_of_report {r : Report} (h : (report.run d).value = .ok r) :
    r.sampledAt = d.now := by
  obtain ⟨-, -, -, -, hnow, -⟩ := boot_of_report h
  exact hnow

end Query

/-! ## Devices that answer -/

/-- The kernel knows when the device was started, the clock is not before that and in no leap
second, and it takes no time to read it. -/
structure Device.Settled (d : Device) (boot : Int64) : Prop where
  answers : d.kernel = .answers boot
  pos : 1 ≤ boot.toInt
  le_now : boot.toInt ≤ d.now.secs
  ordinary : d.now.Ordinary
  still : d.tick = 0

instance (d : Device) (boot : Int64) : Decidable (d.Settled boot) :=
  decidable_of_iff (_ ∧ _ ∧ _ ∧ _ ∧ _)
    ⟨fun ⟨h1, h2, h3, h4, h5⟩ => ⟨h1, h2, h3, h4, h5⟩,
      fun ⟨h1, h2, h3, h4, h5⟩ => ⟨h1, h2, h3, h4, h5⟩⟩

namespace Device.Settled

variable {d e : Device} {boot : Int64}

theorem ticked (h : d.Settled boot) : d.ticked = d := ticked_of_still h.ordinary h.still

theorem elapse {millis : Int64} (h : d.Settled boot) (hpos : 0 ≤ millis.toInt)
    (he : d.elapse? millis = some e) :
    e.Settled boot ∧ e.now.millis.toInt = d.now.millis.toInt + millis.toInt := by
  obtain ⟨heq, htotal, hord⟩ := elapse?_eq_some h.ordinary he
  have hle := h.le_now
  refine ⟨⟨by rw [heq]; exact h.answers, h.pos, ?_, hord, by rw [heq]; exact h.still⟩,
    Instant.toInt_millis_of_total htotal⟩
  unfold Instant.total Instant.Ordinary at *
  omega

theorem setByHand {secs : Int64} (h : d.Settled boot) (hpos : 1 ≤ boot.toInt + secs.toInt)
    (he : d.setByHand? secs = some e) :
    ∃ boot' : Int64, e.Settled boot' ∧ boot'.toInt = boot.toInt + secs.toInt ∧
      e.now.millis.toInt = d.now.millis.toInt + secs.toInt * 1000 := by
  obtain ⟨boot', heq, hboot, hle, htotal, hord⟩ :=
    setByHand?_eq_some h.ordinary h.answers h.le_now hpos he
  refine ⟨boot', ⟨by rw [heq], by omega, hle, hord, ?_⟩, hboot,
    Instant.toInt_millis_of_total (by omega)⟩
  rw [heq]
  exact h.still

end Device.Settled

/-- A device that was started a hundred seconds ago, a quarter of a second into a second. -/
def Device.sample : Device :=
  { kernel := .answers 1000000
    now := ⟨1000100, 250000000, by decide, by decide, by decide⟩
    tick := 0 }

theorem Device.settled_sample : sample.Settled 1000000 := by decide

end BootClock
