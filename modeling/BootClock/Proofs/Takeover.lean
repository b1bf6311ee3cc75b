import BootClock.Service
/-!
# Taking over a server's time

A lead that fits is measured exactly, and counts as none below the lag threshold (`toInt_measure`).
Once a server's time has been taken over, a lead replaces the offset in use exactly if it is further
from it than the other threshold (`due_iff_of_synchronized`).
Taking it over makes the boot time known by then the one that manual changes are counted from.
-/

namespace BootClock.Service

variable {s : Service} {server : Int64} {now : Instant}

/-- A magnitude that stops at the highest count is no smaller than any threshold, so saturation never
decides what counts as none. -/
theorem toInt_measure_eq_clamp (s : Service) (server : Int64) (now : Instant) :
    (s.measure server now).toInt =
      if (server.toInt - now.millis.toInt).natAbs < s.lag.toInt then 0
      else (clamp (server.toInt - now.millis.toInt)).toInt := by
  have habs := Saturating.toInt_abs_sub server now.millis
  have hlag := (fits_toInt s.lag).2
  unfold measure
  dsimp only
  by_cases hlt : (server.toInt - now.millis.toInt).natAbs < s.lag.toInt
  · rw [if_pos (by omega), if_pos hlt]
    decide
  · rw [if_neg (by omega), if_neg hlt]
    rfl

theorem toInt_measure (h : Fits (server.toInt - now.millis.toInt)) :
    (s.measure server now).toInt =
      if (server.toInt - now.millis.toInt).natAbs < s.lag.toInt then 0
      else server.toInt - now.millis.toInt := by
  rw [toInt_measure_eq_clamp, toInt_clamp_of_fits h]

/-- A lead that replaces an offset has moved by more than the threshold. -/
theorem due_iff_of_synchronized (h : s.synchronized = true) (lead : Int64) :
    s.due lead = true ↔
      s.resync.toInt < min (lead.toInt - s.serverOffset.toInt).natAbs 9223372036854775807 := by
  rw [← Saturating.toInt_abs_sub]
  simp [due, h]

/-- A positive server time is never further back than the clock is forward. -/
theorem lowest_lt_measure (h : 0 < server.toInt) :
    -9223372036854775808 < (s.measure server now).toInt := by
  have hclamp := toInt_clamp (server.toInt - now.millis.toInt)
  have hclock := now.toInt_millis
  have hlast := now.le_last
  have hnanos := now.nanos_lt
  unfold Instant.lastSecond at hlast
  rw [toInt_measure_eq_clamp]
  split <;> omega

theorem synchronizedAt_of_due (h : s.due (s.measure server now) = true) :
    s.synchronizedAt server now = ⟨s.applied (s.measure server now), true, s.listeners⟩ := by
  simp only [synchronizedAt, h, if_true]

theorem synchronizedAt_of_not_due (h : s.due (s.measure server now) = false) :
    s.synchronizedAt server now = ⟨s, false, []⟩ := by
  simp only [synchronizedAt, h, Bool.false_eq_true, if_false]

/-- Taken over or not, a server's time is no news of the boot time. -/
theorem boot_synchronizedAt : (s.synchronizedAt server now).service.boot = s.boot := by
  unfold synchronizedAt
  dsimp only
  split <;> rfl

end BootClock.Service
