import BootClock.Proofs.Range
/-!
# When a server's time is taken over, and what it leaves

Thresholds of any length in seconds decide as if nothing ever stopped at an end of the 64-bit counts:
a server's time is taken over exactly if it is positive and the first one, or if the lead that counts
has moved by more than the threshold, in unbounded numbers (`applied_iff_counted`). What is left of
it does not depend on what was corrected before: at the same reading the clock then tells the
server's time, or the device's if the lead counts as none, and the forward time with it; and the same
server's time as much later as the clock is ignored (`current_after_applied`).
-/

namespace BootClock

open Instant

/-- The lead that counts, in unbounded numbers: none if it is below the lag threshold. -/
def Thresholds.counted (limits : Thresholds) (lead : Int) : Int :=
  if lead.natAbs < 1000 * limits.lag.toNat then 0 else lead

namespace Service

variable {s : Service} {limits : Thresholds} {server server' : Int64} {now now' : Instant}

/-! ## Thresholds in unbounded numbers -/

/-- A lag threshold that stops at the highest count is above every lead that does not. -/
theorem toInt_measure_eq_counted (h : s.Limited limits)
    (hlead : (server.toInt - now.millis.toInt).natAbs < 2 ^ 63 - 1) :
    (s.measure server now).toInt = limits.counted (server.toInt - now.millis.toInt) := by
  have hlag : s.lag.toInt = _ := h.lag ▸ toInt_millisOf limits.lag
  have hfits : Fits (server.toInt - now.millis.toInt) := by
    unfold Fits
    omega
  rw [toInt_measure hfits, Thresholds.counted]
  by_cases hbelow : (server.toInt - now.millis.toInt).natAbs < 1000 * limits.lag.toNat
  · rw [if_pos (by omega), if_pos hbelow]
  · rw [if_neg (by omega), if_neg hbelow]

/-- A resync threshold that stops at the highest count is no smaller than any drift that is a count. -/
theorem due_iff_drift (h : s.Limited limits) {lead : Int64}
    (hdrift : (lead.toInt - s.serverOffset.toInt).natAbs < 2 ^ 63) :
    s.due lead = true ↔ s.synchronized = false ∨
      1000 * limits.resync.toNat < (lead.toInt - s.serverOffset.toInt).natAbs := by
  have hresync : s.resync.toInt = _ := h.resync ▸ toInt_millisOf limits.resync
  cases hsync : s.synchronized with
  | false => simp [due, hsync]
  | true =>
    rw [due_iff_of_synchronized hsync]
    simp only [Bool.true_eq_false, false_or]
    omega

/-- If a lead and its distance from the offset are counts, so is that of the lead that counts. -/
theorem natAbs_counted_sub_lt (h : s.Limited limits) {lead : Int}
    (hdrift : (lead - s.serverOffset.toInt).natAbs < 2 ^ 63) :
    (limits.counted lead - s.serverOffset.toInt).natAbs < 2 ^ 63 := by
  have hlowest := h.offset
  have hfits := (fits_toInt s.serverOffset).2
  unfold Thresholds.counted
  split
  · omega
  · exact hdrift

/-! ## What a takeover leaves -/

/-- Nothing of the boot times is left in the correction. -/
theorem exact_applied (s : Service) (lead : Int64) :
    (s.applied lead).exact = lead.toInt + s.forward.toInt := by
  simp only [exact, applied]
  omega

theorem sumsFit_applied {lead : Int64} (h : Fits (lead.toInt + s.forward.toInt)) :
    (s.applied lead).SumsFit := by
  refine ⟨?_, ?_, exact_applied s lead ▸ h⟩ <;> simp only [applied, Int.sub_self]
  · decide
  · rw [Int.zero_add]
    exact fits_toInt lead

/-- The time that the clock tells after a takeover, less the forward time. -/
def aligned (s : Service) (server : Int64) (now : Instant) : Int :=
  if (server.toInt - now.millis.toInt).natAbs < s.lag.toInt then now.millis.toInt
  else server.toInt

/-- A lead that leads to an instant did not stop at an end of the counts. -/
theorem millis_add_measure (hforward : 0 ≤ s.forward.toInt) (hpos : 0 < server.toInt)
    (hlast : s.aligned server now + s.forward.toInt < (lastSecond + 1) * 1000) :
    now.millis.toInt + (s.measure server now).toInt = s.aligned server now := by
  have hmeasure := s.toInt_measure_eq_clamp server now
  have hclamp := toInt_clamp (server.toInt - now.millis.toInt)
  have hearliest := now.earliest_le_millis
  have hlatest := now.millis_le_latest
  unfold aligned at *
  by_cases hbelow : (server.toInt - now.millis.toInt).natAbs < s.lag.toInt
  · rw [if_pos hbelow] at hmeasure ⊢
    omega
  · rw [if_neg hbelow] at hmeasure hlast ⊢
    unfold earliest firstSecond at hearliest
    unfold latest lastSecond at *
    omega

/-- Where that and the forward time make an instant, it is what the clock tells. -/
theorem corrected_applied (hnow : now.Ordinary) (hforward : 0 ≤ s.forward.toInt)
    (hpos : 0 < server.toInt)
    (hfirst : firstSecond * 1000 ≤ s.aligned server now + s.forward.toInt)
    (hlast : s.aligned server now + s.forward.toInt < (lastSecond + 1) * 1000) :
    ∃ u, (s.applied (s.measure server now)).corrected now = .ok u ∧
      u.millis.toInt = s.aligned server now + s.forward.toInt := by
  have hmeasure := millis_add_measure hforward hpos hlast
  have hearliest := now.earliest_le_millis
  have hlatest := now.millis_le_latest
  have hexact := exact_applied s (s.measure server now)
  have hfits : Fits ((s.measure server now).toInt + s.forward.toInt) := by
    unfold Fits
    unfold earliest firstSecond at *
    unfold latest lastSecond at *
    omega
  have hreaches : (s.applied (s.measure server now)).Reaches now := by
    constructor <;> omega
  obtain ⟨u, hu, -, htotal⟩ := corrected_of_reaches (sumsFit_applied hfits) hnow hreaches
  have hmillis := Instant.toInt_millis_of_total htotal
  exact ⟨u, hu, by omega⟩

/-- Server and clock that moved on together leave the lead as it was, and the lead in use is never
taken over again. -/
theorem not_due_after_applied (h : s.Limited limits)
    (hlead : server'.toInt - now'.millis.toInt = server.toInt - now.millis.toInt) :
    let s' := s.applied (s.measure server now)
    s'.due (s'.measure server' now') = false := by
  intro s'
  have hresync : s'.resync.toInt = _ := h.resync ▸ toInt_millisOf limits.resync
  have hmeasure : s.measure server' now' = s.measure server now := by
    unfold measure Saturating.sub
    rw [hlead]
  have hoffset : s'.measure server' now' = s'.serverOffset := hmeasure
  rw [hoffset, Bool.eq_false_iff, ne_eq, due_iff_of_synchronized rfl, Int.sub_self]
  omega

end Service

namespace Session

/-! ## The decision -/

/-- **When a server's time is taken over:** it is positive, and it is the first one or its lead, as far
as it counts, is further from the offset in use than the resync threshold. The lead that counts is
then the offset in use. -/
theorem applied_iff_counted (limits : Thresholds) (now : Instant) (started : Nat) (d : Device)
    (actions : List Action) (server : Int64) :
    let s := (made limits now started d).after actions
    let lead := server.toInt - s.device.now.millis.toInt
    let offset := s.service.serverOffset.toInt
    let next := s.step (.synchronize server)
    lead.natAbs < 2 ^ 63 - 1 → (lead - offset).natAbs < 2 ^ 63 - 1 →
      (next.answer = .applied true ↔ 0 < server.toInt ∧
        (s.service.synchronized = false ∨
          1000 * limits.resync.toNat < (limits.counted lead - offset).natAbs)) ∧
      (next.answer = .applied true →
        next.session.service.serverOffset.toInt = limits.counted lead) ∧
      (next.answer ≠ .applied true →
        next.answer = .applied false ∧ next.session.service = s.service) := by
  intro s lead offset next hlead hdrift
  have hlimited : s.service.Limited limits := limited_after_made limits now started d actions
  have hmeasure : (s.service.measure server s.device.now).toInt = limits.counted lead :=
    Service.toInt_measure_eq_counted hlimited hlead
  have hdue : s.service.due (s.service.measure server s.device.now) = true ↔
      s.service.synchronized = false ∨
        1000 * limits.resync.toNat < (limits.counted lead - offset).natAbs := by
    rw [← hmeasure]
    apply Service.due_iff_drift hlimited
    rw [hmeasure]
    exact Service.natAbs_counted_sub_lt hlimited (by omega)
  rcases s.takenOver_or_ignored server with htaken | hignored
  · refine ⟨⟨fun _ => ⟨htaken.pos, hdue.1 htaken.due⟩, fun _ => htaken.answer⟩, fun _ => ?_, ?_⟩
    · rw [htaken.service]
      exact hmeasure
    · intro hnot
      exact absurd htaken.answer hnot
  · have hnot : next.answer ≠ .applied true := by
      rw [hignored.answer]
      nofun
    refine ⟨⟨fun h => absurd h hnot, ?_⟩, fun h => absurd h hnot, fun _ => ?_⟩
    · rintro ⟨hpos, hmoved⟩
      exact absurd (hdue.2 hmoved) (Bool.eq_false_iff.1 (hignored.not_due hpos))
    · exact ⟨hignored.answer, hignored.service⟩

/-- A lead of 260 seconds is not too near to one of 200 only by its last millisecond. Thresholds far
beyond the counts leave no lead that counts. -/
theorem applied_by_last_millisecond :
    let s := (made {} Device.sample.now 0 .sample).after [.synchronize 1000300250]
    let s' := (made ⟨18446744073709551615, 18446744073709551615⟩ Device.sample.now 0 .sample).after
      [.elapse 700]
    (s.step (.synchronize 1000360250)).answer = .applied false ∧
      (s.step (.synchronize 1000360251)).answer = .applied true ∧
      (s.step (.synchronize 1000360251)).session.service.serverOffset.toInt = 260001 ∧
      (s'.step (.synchronize 9000000000000000000)).answer = .applied true ∧
      (s'.step (.synchronize 9000000000000000000)).session.service.serverOffset.toInt = 0 := by
  intro s s'
  have hdecision := applied_iff_counted {} Device.sample.now 0 .sample [.synchronize 1000300250]
  obtain ⟨hnear, -, hignored⟩ := hdecision 1000360250 (by decide +kernel) (by decide +kernel)
  obtain ⟨hfar, hoffset, -⟩ := hdecision 1000360251 (by decide +kernel) (by decide +kernel)
  obtain ⟨hfirst, hnone, -⟩ := applied_iff_counted ⟨18446744073709551615, 18446744073709551615⟩
    Device.sample.now 0 .sample [.elapse 700] 9000000000000000000 (by decide +kernel)
    (by decide +kernel)
  have happlied := hfar.2 (by decide +kernel)
  have happlied' := hfirst.2 (by decide +kernel)
  refine ⟨(hignored fun h => absurd (hnear.1 h) (by decide +kernel)).1, happlied, ?_, happlied', ?_⟩
  · rw [hoffset happlied]
    decide +kernel
  · rw [hnone happlied']
    decide +kernel

/-! ## What is left of it -/

/-- **A server's time that is taken over replaces every correction** that was made before it: at the
same reading the clock tells the server's time, or the device's if the lead is below the lag threshold,
and the forward time with it. The same server's time is then ignored as much later as the clock. -/
theorem current_after_applied (limits : Thresholds) (now : Instant) (started : Nat) (d : Device)
    (actions : List Action) (server : Int64) :
    let s := (made limits now started d).after actions
    let clock := s.device.now.millis.toInt
    let lag := (Service.millisOf limits.lag).toInt
    let time := (if (server.toInt - clock).natAbs < lag then clock else server.toInt) +
      s.service.forward.toInt
    (s.step (.synchronize server)).answer = .applied true →
      (s.device.now.Ordinary → firstSecond * 1000 ≤ time → time < (lastSecond + 1) * 1000 →
        ∃ u, ((s.after [.synchronize server, .setNow s.device.now]).step .current).answer =
          .time (.ok u) ∧ u.millis.toInt = time) ∧
      ∀ (later : Nat) (server' : Int64) (now' : Instant), server'.toInt = server.toInt + later →
        now'.millis.toInt = clock + later →
        ((s.after [.synchronize server, .setNow now']).step (.synchronize server')).answer =
          .applied false := by
  intro s clock lag time happlied
  have htaken := takenOver_of_applied s happlied
  have hlimited : s.service.Limited limits := limited_after_made limits now started d actions
  refine ⟨fun hordinary hfirst hlast => ?_, fun later server' now' hserver hnow => ?_⟩
  · have hforward : 0 ≤ s.service.forward.toInt :=
      (consistent_after_made limits now started d actions).forward_nonneg
    have htime : s.service.aligned server s.device.now + s.service.forward.toInt = time := by
      unfold Service.aligned
      rw [hlimited.lag]
    obtain ⟨u, hu, hmillis⟩ := Service.corrected_applied hordinary hforward htaken.pos
      (htime ▸ hfirst) (htime ▸ hlast)
    refine ⟨u, ?_, hmillis.trans htime⟩
    rw [after_setNow, step_current, htaken.service, hu]
  · have hlead : server'.toInt - now'.millis.toInt = server.toInt - s.device.now.millis.toInt := by
      omega
    rw [after_setNow, htaken.service]
    exact (ignored_of_not_due _ (Service.not_due_after_applied hlimited hlead)).answer

/-- A clock that was set forward by hand before a server's time was taken over and after, with five
seconds of forward time. -/
def changedTwice : List Action :=
  [.setByHand 3600, .refresh, .synchronize 1000100250, .forwardMillis 5000, .setByHand 7200]

/-- A server that is three hours behind is followed, and one that is a hundred seconds ahead leaves the
clock at its device's time. -/
theorem current_after_applied_anew :
    let s := (made {} Device.sample.now 0 .sample).after changedTwice
    (∃ u, ((s.after [.synchronize 1000100250, .setNow s.device.now]).step .current).answer =
        .time (.ok u) ∧ u.millis.toInt = 1000105250) ∧
      (∃ u, ((s.after [.synchronize 1011000250, .setNow s.device.now]).step .current).answer =
        .time (.ok u) ∧ u.millis.toInt = 1010905250) ∧
      ((s.after [.synchronize 1000100250, .setNow ⟨1010900, 950000000, by decide, by decide,
        by decide⟩]).step (.synchronize 1000100950)).answer = .applied false := by
  intro s
  have hdue : ((s.service.synchronize 1000100250).run s.device).value.applied = true := by
    decide +kernel
  have hdue' : ((s.service.synchronize 1011000250).run s.device).value.applied = true := by
    decide +kernel
  have happlied : (s.step (.synchronize 1000100250)).answer = .applied true :=
    congrArg Answer.applied hdue
  have happlied' : (s.step (.synchronize 1011000250)).answer = .applied true :=
    congrArg Answer.applied hdue'
  obtain ⟨hbehind, hagain⟩ := current_after_applied {} Device.sample.now 0 .sample changedTwice
    1000100250 happlied
  obtain ⟨hahead, -⟩ := current_after_applied {} Device.sample.now 0 .sample changedTwice
    1011000250 happlied'
  obtain ⟨u, hu, hmillis⟩ := hbehind (by decide +kernel) (by decide +kernel) (by decide +kernel)
  obtain ⟨u', hu', hmillis'⟩ := hahead (by decide +kernel) (by decide +kernel) (by decide +kernel)
  refine ⟨⟨u, hu, ?_⟩, ⟨u', hu', ?_⟩, hagain 700 _ _ (by decide) (by decide +kernel)⟩
  · rw [hmillis]
    decide +kernel
  · rw [hmillis']
    decide +kernel

end Session

end BootClock
