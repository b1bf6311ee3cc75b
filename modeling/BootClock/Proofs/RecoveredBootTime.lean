import BootClock.Proofs.Unsaturated
/-!
# Boot times recovered from uptimes

A look-up subtracts the uptime, which is counted in whole seconds, from the milliseconds of the same
clock reading. The seconds since boot cancel, and what is left is the kernel's boot time and the
milliseconds that the reading was into its second (`recovers_refresh`). Nothing that the clock knew
before enters it, so errors do not add up: whatever happens between two look-ups at the same boot time,
what they recover is less than a second apart (`boot_of_refreshes`).
-/

namespace BootClock.Session

variable {s : Session} {boot : Int64}

/-! ## One look-up -/

/-- The step looks up the boot time at a kernel started at the second `boot`. -/
structure Recovers (s : Session) (boot : Int64) (next : Step) : Prop where
  /-- The clock is read once, and the kernel is asked after that. -/
  reads : next.reads = [.clock, .kernel]
  /-- There is nothing to warn of. -/
  events : next.events = []
  /-- The boot time is the clock reading less the uptime, and their difference does not stop short. -/
  exact : ∃ r, (Query.report.run s.device).value = .ok r ∧ r.sampledAt = s.device.now ∧
    Saturating.SubExact r.sampledAt.millis r.millis ∧
    next.session.service.boot = Saturating.sub r.sampledAt.millis r.millis
  boot : next.session.service.boot.toInt = 1000 * boot.toInt + s.device.now.phase

theorem recovers_refresh (hk : s.device.kernel = .answers boot) (hpos : 1 ≤ boot.toInt)
    (hle : boot.toInt ≤ s.device.now.secs) : s.Recovers boot (s.step .refresh) := by
  obtain ⟨r, hr, hboot⟩ := Query.toInt_bootOf hk hpos hle
  obtain ⟨-, -, -, -, hsampled, -⟩ := Query.boot_of_report hr
  rw [step_refresh_of_report s hr]
  refine ⟨rfl, rfl, ⟨r, hr, hsampled, Service.looked_exact hr, rfl⟩, ?_⟩
  rw [Int.mul_comm]
  exact hboot

/-! ## Look-ups at the same boot time -/

/-- The whole seconds of two look-ups cancel, and of their milliseconds neither makes up a second. -/
theorem Recovers.natAbs_sub_le {t : Session} {next next' : Step} (h : s.Recovers boot next)
    (h' : t.Recovers boot next') (hs : s.device.now.Ordinary) (ht : t.device.now.Ordinary) :
    (next'.session.service.boot.toInt - next.session.service.boot.toInt).natAbs ≤ 999 := by
  have hlow := s.device.now.phase_nonneg
  have hhigh := hs.phase_lt
  have hlow' := t.device.now.phase_nonneg
  have hhigh' := ht.phase_lt
  rw [h.boot, h'.boot]
  omega

/-- **The boot time that a look-up recovers.** Whatever the clock knew before and however its device
ticks, a look-up at a kernel with a boot time that is not ahead of the clock makes one clock reading
and takes for boot time that of the kernel and the milliseconds of the reading into its second, in exact
numbers. After any run, another look-up that succeeds at the same boot time outside leap seconds recovers
one that is at most 999 milliseconds away. -/
theorem boot_of_refreshes (hk : s.device.kernel = .answers boot) (hpos : 1 ≤ boot.toInt)
    (hle : boot.toInt ≤ s.device.now.secs) (hord : s.device.now.Ordinary) :
    let next := s.step .refresh
    s.Recovers boot next ∧ 0 ≤ s.device.now.phase ∧ s.device.now.phase ≤ 999 ∧
      ∀ between : List Action,
        let later := next.session.after between
        later.device.kernel = .answers boot → later.device.now.Ordinary →
        (∃ r, (Query.report.run later.device).value = .ok r) →
          ((later.step .refresh).session.service.boot.toInt -
            next.session.service.boot.toInt).natAbs ≤ 999 := by
  intro next
  have hnext : s.Recovers boot next := recovers_refresh hk hpos hle
  refine ⟨hnext, s.device.now.phase_nonneg, Int.le_of_lt_add_one hord.phase_lt, ?_⟩
  intro between later hk' hord' hok
  obtain ⟨boot', hanswers, -, hle'⟩ := Query.report_ok_iff.1 hok
  obtain rfl := Kernel.answers.inj (hk'.symm.trans hanswers)
  exact hnext.natAbs_sub_le (recovers_refresh hk' hpos hle') hord hord'

/-- A clock that was told the longest uptime there is, on a device that goes on by 999 milliseconds
whenever its clock is read. Its next reading falls on a full second. -/
def misled : Session :=
  let now : Instant := ⟨1000099, 1000000, by decide, by decide, by decide⟩
  (⟨.unanchored {} now 0, { kernel := .answers 1000000, now, tick := 999 }⟩ : Session).after
    [.updateUptime 9223372036854775807]

/-- Neither that uptime nor a change by hand that is taken back, nor a thousand days leave a trace in
what is recovered; the milliseconds of the readings make up all of the distance. -/
theorem boot_of_refreshes_misled :
    let between : List Action := [.setByHand 3600, .refresh, .setByHand (-3600), .elapse 86400000001]
    let last := ((misled.step .refresh).session.after between).step .refresh
    misled.service.boot.toInt = -9223372035854676806 ∧
      (misled.step .refresh).session.service.boot.toInt = 1000000000 ∧
      last.session.service.boot.toInt = 1000000999 ∧
      (last.session.service.boot.toInt -
        (misled.step .refresh).session.service.boot.toInt).natAbs ≤ 999 := by
  intro between last
  have hkernel : misled.device.kernel = .answers 1000000 := by decide +kernel
  obtain ⟨hfirst, -, -, hlater⟩ :=
    boot_of_refreshes hkernel (by decide) (by decide +kernel) (by decide +kernel)
  have hphase : misled.device.now.phase = 0 := by decide +kernel
  refine ⟨by decide +kernel, ?_, by decide +kernel, hlater between ?_ ?_ ?_⟩
  · rw [hfirst.boot, hphase]
    decide
  · decide +kernel
  · decide +kernel
  · exact Query.report_ok_iff.2 ⟨1000000, by decide +kernel, by decide, by decide +kernel⟩

end BootClock.Session
