import BootClock.Proofs.Step
/-!
# Leads that move too little to count

Once a server's time has been taken over, a later one whose lead is within the resync threshold of
the offset in use is ignored, however the two thresholds compare, with one exception: a lead below
the lag threshold counts as none, so it replaces an offset beyond the resync threshold by zero even
where the two are near each other (`synchronize_within_resync`). `offset_dropped_within_resync` is
such a pair.
-/

namespace BootClock

namespace Service

variable {s : Service} {server : Int64} {now : Instant}

/-- A lead that counts is no further from the offset once saturation has brought it back into the
64-bit counts. -/
theorem not_due_within_resync (hsync : s.synchronized = true)
    (hlag : s.lag.toInt ≤ (server.toInt - now.millis.toInt).natAbs)
    (hnear : (server.toInt - now.millis.toInt - s.serverOffset.toInt).natAbs ≤ s.resync.toInt) :
    s.due (s.measure server now) = false := by
  have hmeasure := s.toInt_measure_eq_clamp server now
  have hclamp := toInt_clamp (server.toInt - now.millis.toInt)
  have hoffset := fits_toInt s.serverOffset
  rw [if_neg (Int.not_lt.2 hlag)] at hmeasure
  unfold Fits at hoffset
  rw [Bool.eq_false_iff, ne_eq, due_iff_of_synchronized hsync]
  omega

/-- A lead below the lag threshold is as far from the offset as zero is. -/
theorem due_below_lag_iff (hsync : s.synchronized = true)
    (hlowest : -9223372036854775808 < s.serverOffset.toInt)
    (hlag : (server.toInt - now.millis.toInt).natAbs < s.lag.toInt) :
    s.due (s.measure server now) = true ↔ s.resync.toInt < s.serverOffset.toInt.natAbs := by
  have hmeasure := s.toInt_measure_eq_clamp server now
  have hoffset := (fits_toInt s.serverOffset).2
  rw [if_pos hlag] at hmeasure
  rw [due_iff_of_synchronized hsync]
  omega

theorem measure_below_lag (hlag : (server.toInt - now.millis.toInt).natAbs < s.lag.toInt) :
    s.measure server now = 0 := by
  apply Int64.toInt_inj.1
  rw [toInt_measure_eq_clamp, if_pos hlag]
  rfl

end Service

namespace Session

/-- **A lead within the resync threshold of the offset in use** is ignored: nothing is taken over,
nobody is told and the clock stays as it was. Only a lead below the lag threshold beside an offset
beyond the resync threshold is taken over, as none. -/
theorem synchronize_within_resync {limits : Thresholds} {d : Device} {actions : List Action}
    {server : Int64} :
    let s := (start limits d).session.after actions
    let lag := (Service.millisOf limits.lag).toInt
    let resync := (Service.millisOf limits.resync).toInt
    let offset := s.service.serverOffset.toInt
    let lead := server.toInt - s.device.now.millis.toInt
    let next := s.step (.synchronize server)
    s.service.synchronized = true → 0 < server.toInt → (lead - offset).natAbs ≤ resync →
      if lead.natAbs < lag ∧ resync < offset.natAbs then
        next.answer = .applied true ∧ next.fired = s.service.listeners ∧
          next.session.service = s.service.applied 0
      else next.answer = .applied false ∧ next.fired = [] ∧ next.session.service = s.service := by
  intro s lag resync offset lead next hsync hpos hnear
  obtain ⟨hlag, hresync, hlowest⟩ := limited_after_start limits d actions
  have hstep : next = _ := step_synchronize s hpos
  have hlag : s.service.lag.toInt = lag := congrArg Int64.toInt hlag
  have hresync : s.service.resync.toInt = resync := congrArg Int64.toInt hresync
  by_cases hbelow : lead.natAbs < lag
  · have hdue := Service.due_below_lag_iff hsync hlowest (hlag ▸ hbelow)
    rw [hresync] at hdue
    by_cases hfar : resync < offset.natAbs
    · rw [if_pos ⟨hbelow, hfar⟩, hstep, Service.synchronizedAt_of_due (hdue.2 hfar),
        Service.measure_below_lag (hlag ▸ hbelow)]
      exact ⟨rfl, rfl, rfl⟩
    · rw [if_neg fun h => hfar h.2, hstep, Service.synchronizedAt_of_not_due
        (Bool.eq_false_iff.2 fun h => hfar (hdue.1 h))]
      exact ⟨rfl, rfl, rfl⟩
  · have hdue := Service.not_due_within_resync hsync (hlag ▸ Int.not_lt.1 hbelow) (hresync ▸ hnear)
    rw [if_neg fun h => hbelow h.1, hstep, Service.synchronizedAt_of_not_due hdue]
    exact ⟨rfl, rfl, rfl⟩

/-- A lead of 200 seconds is taken over, with a listener to be told of it. -/
def takenOver : List Action := [.listen "log", .synchronize 1000300250, .elapse 700]

/-- A lead of 230 seconds is near enough to it. -/
theorem lead_ignored_within_resync :
    let s := (start {} .sample).session.after takenOver
    let next := s.step (.synchronize 1000330950)
    s.service.synchronized = true ∧
      ((1000330950 : Int64).toInt - s.device.now.millis.toInt -
        s.service.serverOffset.toInt).natAbs = 30000 ∧
      next.answer = .applied false ∧ next.fired = [] ∧ next.session.service = s.service := by
  dsimp only
  have hignored := @synchronize_within_resync {} .sample takenOver 1000330950 (by decide +kernel)
    (by decide) (by decide +kernel)
  rw [if_neg (by decide +kernel)] at hignored
  exact ⟨by decide +kernel, by decide +kernel, hignored⟩

/-- A lead of 170 seconds is as near to it, but counts as none and replaces it. -/
theorem offset_dropped_within_resync :
    let s := (start {} .sample).session.after takenOver
    let next := s.step (.synchronize 1000270950)
    s.service.synchronized = true ∧
      ((1000270950 : Int64).toInt - s.device.now.millis.toInt -
        s.service.serverOffset.toInt).natAbs = 30000 ∧
      (Service.millisOf ({} : Thresholds).resync).toInt = 60000 ∧
      next.answer = .applied true ∧ next.fired = ["log"] ∧ next.session.service ≠ s.service := by
  intro s next
  have happlied : ((s.service.synchronize 1000270950).run s.device).value.applied = true := by
    decide +kernel
  exact ⟨by decide +kernel, by decide +kernel, by decide +kernel, congrArg Answer.applied happlied,
    by decide +kernel, by decide +kernel⟩

end Session

end BootClock
