import BootClock.Uptime
/-!
# Uptimes in exact numbers

Any two 64-bit counts of seconds may be asked for the uptime between them. A boot time is positive and
a clock that is behind it is refused first, so the difference of the two is a count (`toInt_sub_boot`);
its thousandfold need not be one. One fault therefore tells that the exact number is negative, the
other that it is too high to be a count, and every other uptime is that number (`since_exact`).
-/

namespace BootClock.Uptime

variable {boot : BootTime} {now : Int64} {u : Uptime}

/-- The difference that is multiplied leaves the 64-bit counts at neither end. -/
theorem toInt_sub_boot (h : boot.secs.toInt ≤ now.toInt) :
    (now - boot.secs).toInt = now.toInt - boot.secs.toInt := by
  have hpos := boot.pos
  have hlast := (fits_toInt now).2
  rw [Int64.toInt_sub]
  apply Int.bmod_eq_of_le_mul_two <;> omega

/-! ## What is answered -/

theorem since_of_lt (h : now.toInt < boot.secs.toInt) :
    since boot now = .error (.clockBeforeBoot now boot.secs) := if_pos h

theorem since_of_fits (h : boot.secs.toInt ≤ now.toInt)
    (hf : Fits ((now.toInt - boot.secs.toInt) * 1000)) :
    ∃ u, since boot now = .ok u ∧ u.millis.toInt = (now.toInt - boot.secs.toInt) * 1000 := by
  have hcount := toInt_clamp_of_fits hf
  let u : Uptime := ⟨clamp ((now.toInt - boot.secs.toInt) * 1000), by omega⟩
  have hu : ofMillis? u.millis = some u := ofMillis?_eq_some_iff.2 rfl
  refine ⟨u, ?_, hcount⟩
  simp only [since, if_neg (Int.not_lt.2 h), count?, if_pos hf]
  simp only [u] at hu ⊢
  rw [hu]

theorem since_of_not_fits (h : boot.secs.toInt ≤ now.toInt)
    (hf : ¬ Fits ((now.toInt - boot.secs.toInt) * 1000)) : since boot now = .error .overflow := by
  simp only [since, if_neg (Int.not_lt.2 h), count?, if_neg hf]

/-- The clock is behind the boot time, or the uptime is no count, or there is an uptime. -/
theorem since_cases (boot : BootTime) (now : Int64) :
    (now.toInt < boot.secs.toInt ∧ since boot now = .error (.clockBeforeBoot now boot.secs)) ∨
      (9223372036854775807 < (now.toInt - boot.secs.toInt) * 1000 ∧
        since boot now = .error .overflow) ∨
      ∃ u, u.millis.toInt = (now.toInt - boot.secs.toInt) * 1000 ∧ since boot now = .ok u := by
  by_cases hlt : now.toInt < boot.secs.toInt
  · exact .inl ⟨hlt, since_of_lt hlt⟩
  · have hle := Int.not_lt.1 hlt
    by_cases hfits : Fits ((now.toInt - boot.secs.toInt) * 1000)
    · obtain ⟨u, hu, hmillis⟩ := since_of_fits hle hfits
      exact .inr (.inr ⟨u, hmillis, hu⟩)
    · refine .inr (.inl ⟨?_, since_of_not_fits hle hfits⟩)
      unfold Fits at hfits
      omega

theorem since_eq_clockBeforeBoot_iff :
    since boot now = .error (.clockBeforeBoot now boot.secs) ↔ now.toInt < boot.secs.toInt := by
  refine ⟨fun h => ?_, since_of_lt⟩
  obtain ⟨hlt, -⟩ | ⟨-, hsince⟩ | ⟨u, -, hsince⟩ := since_cases boot now
  · exact hlt
  · cases h.symm.trans hsince
  · cases h.symm.trans hsince

theorem since_eq_overflow_iff : since boot now = .error .overflow ↔
    9223372036854775807 < (now.toInt - boot.secs.toInt) * 1000 := by
  obtain ⟨hlt, hsince⟩ | ⟨hlarge, hsince⟩ | ⟨u, hmillis, hsince⟩ := since_cases boot now
  · simp only [hsince, Except.error.injEq, reduceCtorEq, false_iff]
    omega
  · exact iff_of_true hsince hlarge
  · have hfits := (fits_toInt u.millis).2
    simp only [hsince, reduceCtorEq, false_iff]
    omega

/-! ## What an uptime of whole seconds tells -/

theorem seconds_of_millis {n : Int} (h : u.millis.toInt = n * 1000) : u.seconds.toInt = n := by
  rw [toInt_seconds]
  omega

theorem duration_of_millis {n : Int} (h : u.millis.toInt = n * 1000) : u.duration = (n.toNat, 0) := by
  have hnonneg := u.nonneg
  have hsecs : u.millis.toInt.toNat = n.toNat * 1000 := by omega
  rw [duration, hsecs]
  simp

/-- An uptime that is known is never taken for one that is not. -/
theorem millis_ne_unknown (u : Uptime) : u.millis ≠ unknownUptime := by
  intro heq
  have hnonneg := u.nonneg
  rw [heq] at hnonneg
  exact absurd hnonneg (by decide)

/-- Only a fault is told by the number of an unknown uptime. -/
theorem sentinel_eq_unknown_iff {answer : Except Fault Uptime} :
    sentinel answer = unknownUptime ↔ ∃ f, answer = .error f := by
  cases answer with
  | ok u => simp [sentinel, u.millis_ne_unknown]
  | error f => simp [sentinel]

/-- **The uptime between any two counts** is the exact one: refused as too early exactly if it is
negative, as too long exactly if its milliseconds are no count, and told to the millisecond otherwise.
The subtraction never wraps where it is made, and -1 stands for the refusals alone. -/
theorem since_exact {raw : Int64} (h : BootTime.ofSeconds raw = .ok boot) (now : Int64) :
    let elapsed := now.toInt - raw.toInt
    (since boot now = .error (.clockBeforeBoot now raw) ↔ elapsed < 0) ∧
      (since boot now = .error .overflow ↔ 9223372036854775807 < 1000 * elapsed) ∧
      (0 ≤ elapsed → 1000 * elapsed ≤ 9223372036854775807 →
        ∃ u, since boot now = .ok u ∧ u.millis.toInt = 1000 * elapsed ∧ u.seconds.toInt = elapsed ∧
          u.duration = (elapsed.toNat, 0)) ∧
      (0 ≤ elapsed → (now - raw).toInt = elapsed) ∧
      (sentinel (since boot now) = -1 ↔ ∃ f, since boot now = .error f) := by
  intro elapsed
  obtain rfl := BootTime.ofSeconds_eq_ok_iff.1 h
  refine ⟨?_, ?_, fun hnonneg hfits => ?_, fun hnonneg => ?_, sentinel_eq_unknown_iff⟩
  · rw [since_eq_clockBeforeBoot_iff]
    omega
  · rw [since_eq_overflow_iff, Int.mul_comm]
  · have hle : boot.secs.toInt ≤ now.toInt := by omega
    obtain ⟨u, hu, hmillis⟩ := since_of_fits hle ⟨by omega, by omega⟩
    exact ⟨u, hu, hmillis.trans (Int.mul_comm _ _), seconds_of_millis hmillis,
      duration_of_millis hmillis⟩
  · exact toInt_sub_boot (by omega)

/-- The longest uptime that is told and the first that is too long, of a device that was started in
the first second of 1970; and the lowest clock, from which the boot time cannot be subtracted. -/
theorem since_exact_at_the_ends :
    ∃ boot, BootTime.ofSeconds 1 = .ok boot ∧
      (∃ u, since boot 9223372036854776 = .ok u ∧ u.millis.toInt = 9223372036854775000 ∧
        u.seconds.toInt = 9223372036854775 ∧ u.duration = (9223372036854775, 0)) ∧
      since boot 9223372036854777 = .error .overflow ∧
      since boot (-9223372036854775808) = .error (.clockBeforeBoot (-9223372036854775808) 1) := by
  let boot : BootTime := ⟨1, by decide⟩
  have hboot : BootTime.ofSeconds 1 = .ok boot := BootTime.ofSeconds_eq_ok_iff.2 rfl
  obtain ⟨-, -, hlongest, -, -⟩ := since_exact hboot 9223372036854776
  obtain ⟨-, htooLong, -, -, -⟩ := since_exact hboot 9223372036854777
  obtain ⟨htooEarly, -, -, -, -⟩ := since_exact hboot (-9223372036854775808)
  exact ⟨boot, hboot, hlongest (by decide) (by decide), htooLong.2 (by decide),
    htooEarly.2 (by decide)⟩

end BootClock.Uptime
