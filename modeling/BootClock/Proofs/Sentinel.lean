import BootClock.Proofs.Lookup
/-!
# The uptime as a bare number

Where only a number can be answered, it is a thousand times the whole seconds since boot if there
are any to count, and -1 for every reason there are not (`toInt_millis`). The number never goes back
while the clock goes on, not even where the clock passes the boot time (`millis_exact`).
-/

namespace BootClock

/-- The whole seconds since boot, if the kernel has a boot time and the clock is not before it. -/
def Device.secondsUp? (d : Device) : Option Int :=
  match d.kernel with
  | .answers boot =>
    if 1 ≤ boot.toInt ∧ boot.toInt ≤ d.now.secs then some (d.now.secs - boot.toInt) else none
  | .fails _ | .unsupported => none

theorem Device.secondsUp?_eq_some_iff {d : Device} {secs : Int} : d.secondsUp? = some secs ↔
    ∃ boot, d.kernel = .answers boot ∧ 1 ≤ boot.toInt ∧ boot.toInt ≤ d.now.secs ∧
      secs = d.now.secs - boot.toInt := by
  unfold secondsUp?
  cases d.kernel with
  | answers boot => simp [eq_comm, and_assoc]
  | fails cause => simp
  | unsupported => simp

namespace Query

variable {d : Device}

theorem run_uptime (d : Device) : uptime.run d =
    ⟨(sampleOf d.now d.kernel.bootTime).map Sample.uptime, d.ticked, [.clock, .kernel], []⟩ := by
  simp [uptime, Probe.run_bind, run_sample]

theorem value_millis (d : Device) :
    (millis.run d).value = Uptime.sentinel (uptime.run d).value := by
  simp only [millis, Probe.run_bind]
  cases (uptime.run d).value <;> rfl

/-- The uptime is known exactly if there are seconds to count, and is then their thousandfold. -/
theorem uptime_of_secondsUp {secs : Int} (h : d.secondsUp? = some secs) :
    ∃ u, (uptime.run d).value = .ok u ∧ u.millis.toInt = secs * 1000 := by
  obtain ⟨boot, hk, hpos, hle, rfl⟩ := Device.secondsUp?_eq_some_iff.1 h
  obtain ⟨s, hs, -, -, hmillis⟩ := sampleOf_of_boot hk hpos hle
  exact ⟨s.uptime, by simp only [run_uptime, hs, Except.map], hmillis⟩

theorem uptime_of_not_secondsUp (h : d.secondsUp? = none) :
    ∃ f, (uptime.run d).value = .error f ∧ f ≠ .overflow := by
  have hnot : ¬ ∃ boot, d.kernel = .answers boot ∧ 1 ≤ boot.toInt ∧ boot.toInt ≤ d.now.secs := by
    rintro ⟨boot, hk, hpos, hle⟩
    have hsome := Device.secondsUp?_eq_some_iff.2 ⟨boot, hk, hpos, hle, rfl⟩
    rw [h] at hsome
    cases hsome
  obtain ⟨f, hf, hne⟩ := sampleOf_of_not_boot hnot
  exact ⟨f, by simp only [run_uptime, hf, Except.map], hne⟩

theorem toInt_millis (d : Device) :
    (millis.run d).value.toInt = d.secondsUp?.elim (-1) (· * 1000) := by
  rw [value_millis]
  cases h : d.secondsUp? with
  | some secs =>
    obtain ⟨u, hu, hmillis⟩ := uptime_of_secondsUp h
    rw [hu]
    exact hmillis
  | none =>
    obtain ⟨f, hf, -⟩ := uptime_of_not_secondsUp h
    rw [hf]
    exact show unknownUptime.toInt = -1 by decide

/-- The seconds since boot go on with the clock. -/
theorem secondsUp_le {later : Instant} {secs : Int} (hle : d.now ≤ later)
    (h : d.secondsUp? = some secs) :
    ∃ secs', ({ d with now := later } : Device).secondsUp? = some secs' ∧ secs ≤ secs' := by
  obtain ⟨boot, hk, hpos, hboot, rfl⟩ := Device.secondsUp?_eq_some_iff.1 h
  have hsecs := Instant.secs_le_of_le hle
  exact ⟨later.secs - boot.toInt,
    Device.secondsUp?_eq_some_iff.2 ⟨boot, hk, hpos, Int.le_trans hboot hsecs, rfl⟩, by omega⟩

/-- The number is never below that of an unknown uptime. -/
theorem neg_one_le_millis (d : Device) : -1 ≤ (millis.run d).value.toInt := by
  rw [toInt_millis]
  cases h : d.secondsUp? with
  | some secs =>
    obtain ⟨boot, -, -, hboot, rfl⟩ := Device.secondsUp?_eq_some_iff.1 h
    simp only [Option.elim_some]
    omega
  | none => exact Int.le_refl _

theorem toInt_millis_le {later : Instant} (hle : d.now ≤ later) :
    (millis.run d).value.toInt ≤ (millis.run { d with now := later }).value.toInt := by
  cases h : d.secondsUp? with
  | some secs =>
    obtain ⟨secs', h', hsecs⟩ := secondsUp_le hle h
    rw [toInt_millis, toInt_millis, h, h']
    simp only [Option.elim_some]
    omega
  | none =>
    rw [toInt_millis d, h]
    exact neg_one_le_millis _

theorem uptime_ne_overflow (d : Device) : (uptime.run d).value ≠ .error .overflow := by
  cases h : d.secondsUp? with
  | some secs =>
    obtain ⟨u, hu, -⟩ := uptime_of_secondsUp h
    rw [hu]
    exact nofun
  | none =>
    obtain ⟨f, hf, hne⟩ := uptime_of_not_secondsUp h
    rw [hf]
    exact fun heq => hne (Except.error.inj heq)

/-- **The uptime as a number** is exact, and -1 where there is none; no uptime overflows; and with
the same kernel a later clock never answers less. -/
theorem millis_exact (d : Device) :
    (millis.run d).value.toInt = d.secondsUp?.elim (-1) (· * 1000) ∧
      (uptime.run d).value ≠ .error .overflow ∧
      ∀ later : Instant, d.now ≤ later →
        (millis.run d).value.toInt ≤ (millis.run { d with now := later }).value.toInt :=
  ⟨toInt_millis d, uptime_ne_overflow d, fun _ => toInt_millis_le⟩

/-- A clock that was reset to just before 1970 counts nothing until it passes the boot time. -/
theorem millis_across_boot :
    let reset : Instant := ⟨-1, 999999999, by decide, by decide, by decide⟩
    let d : Device := { kernel := .answers 5, now := reset, tick := 0 }
    let later : Instant := ⟨7, 250000000, by decide, by decide, by decide⟩
    d.now ≤ later ∧ (millis.run d).value.toInt = -1 ∧
      (millis.run { d with now := later }).value.toInt = 2000 ∧
      (millis.run d).value.toInt ≤ (millis.run { d with now := later }).value.toInt := by
  intro reset d later
  have hle : d.now ≤ later := by decide
  obtain ⟨hbefore, -, hmono⟩ := millis_exact d
  obtain ⟨hafter, -⟩ := millis_exact { d with now := later }
  exact ⟨hle, hbefore.trans (by decide), hafter.trans (by decide), hmono later hle⟩

end Query

end BootClock
