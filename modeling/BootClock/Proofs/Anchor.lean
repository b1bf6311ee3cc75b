import BootClock.Proofs.Step
/-!
# The anchor that a takeover sets

A takeover measures the server's lead against the clock of the moment and makes the boot time in use
the anchor. If the clock was changed by hand since that boot time was looked up, the lead makes up
for the change already, and the next look-up makes up for it once more: the corrected clock is then
off by what the boot time in use was off at the takeover (`current_after_takeover`). It is right
exactly if the anchor was up to date.
-/

namespace BootClock.Session

/-- How far the boot time in use, if there is one, is ahead of what a look-up would give now. -/
def stale (s : Session) (boot : Int64) : Int :=
  if s.service.bootKnown then s.service.boot.toInt - (boot.toInt * 1000 + s.device.now.phase) else 0

variable {s : Session} {boot server : Int64}

/-- A lead of the lag threshold or more, taken over and followed by a look-up. -/
theorem step_takeover_refresh (hd : s.device.Settled boot)
    (happlied : (s.step (.synchronize server)).answer = .applied true)
    (hlag : s.service.lag.toInt ≤ (server.toInt - s.device.now.millis.toInt).natAbs)
    (hlead : Fits (server.toInt - s.device.now.millis.toInt)) :
    (s.after [.synchronize server, .refresh]).device = s.device ∧
      (s.after [.synchronize server, .refresh]).service.exact =
        server.toInt - s.device.now.millis.toInt + s.service.forward.toInt + s.stale boot := by
  have htaken := takenOver_of_applied s happlied
  have hstep := step_synchronize s htaken.pos
  have hmeasure := Service.toInt_measure (s := s.service) hlead
  rw [if_neg (Int.not_lt.2 hlag)] at hmeasure
  rw [after_cons, after_cons, after_nil, hstep, Service.synchronizedAt_of_due htaken.due, hd.ticked]
  obtain ⟨found, hfound, hrefresh⟩ := step_refresh_of_settled
    ⟨s.service.applied (s.service.measure server s.device.now), s.device⟩ hd
  dsimp only at hfound hrefresh ⊢
  rw [hrefresh]
  refine ⟨rfl, ?_⟩
  -- The takeover moved the anchor to the boot time in use, the look-up moves that one away from it.
  cases hknown : s.service.bootKnown <;>
    simp only [Service.exact, Service.learn, Service.applied, stale, hknown, Bool.false_eq_true,
      if_true, if_false, hmeasure, hfound] <;> omega

/-- **A takeover and a look-up at one clock reading** leave the clock at the server's time and the
forward time, off by how stale the boot time was at the takeover; so within a second exactly if that
is. -/
theorem current_after_takeover (hd : s.device.Settled boot)
    (happlied : (s.step (.synchronize server)).answer = .applied true)
    (hlag : s.service.lag.toInt ≤ (server.toInt - s.device.now.millis.toInt).natAbs)
    (hlead : Fits (server.toInt - s.device.now.millis.toInt))
    (hsums : (s.after [.synchronize server, .refresh]).service.SumsFit)
    (hreach : (s.after [.synchronize server, .refresh]).service.Reaches s.device.now) :
    ∃ u, ((s.after [.synchronize server, .refresh]).step .current).answer = .time (.ok u) ∧
      u.millis.toInt = server.toInt + s.service.forward.toInt + s.stale boot ∧
      ((u.millis.toInt - (server.toInt + s.service.forward.toInt)).natAbs ≤ 1000 ↔
        (s.stale boot).natAbs ≤ 1000) := by
  obtain ⟨hdevice, hexact⟩ := step_takeover_refresh hd happlied hlag hlead
  rw [← hdevice] at hreach
  obtain ⟨u, hu, -, htotal⟩ := current_of_reaches _ hsums (hdevice ▸ hd.ordinary) hreach
  have hmillis := Instant.toInt_millis_of_total htotal
  rw [hdevice] at hmillis
  exact ⟨u, hu, by omega, by omega⟩

/-- A clock that was set an hour forward by hand and has not looked up the boot time since. -/
def unseenChange : Session := (start {} .sample).session.after [.setByHand 3600]

/-- With a look-up before the takeover the server's time outlasts the look-up after it. -/
theorem takeover_kept_after_lookup :
    let s := (unseenChange.step .refresh).session
    (s.step (.synchronize 1000100250)).answer = .applied true ∧
      ∃ u, ((s.after [.synchronize 1000100250, .refresh]).step .current).answer = .time (.ok u) ∧
        u.millis.toInt = 1000100250 + s.service.forward.toInt := by
  intro s
  have hd : s.device.Settled 1003600 := by decide +kernel
  have hdue : ((s.service.synchronize 1000100250).run s.device).value.applied = true := by
    decide +kernel
  have happlied : (s.step (.synchronize 1000100250)).answer = .applied true :=
    congrArg Answer.applied hdue
  have hstale : s.stale 1003600 = 0 := by decide +kernel
  obtain ⟨u, hu, hmillis, -⟩ := current_after_takeover hd happlied (by decide +kernel)
    (by decide +kernel) (by decide +kernel) (by decide +kernel)
  refine ⟨happlied, u, hu, ?_⟩
  rw [hmillis, hstale]
  rfl

/-- Without it, the look-up after the takeover makes up for the change a second time. -/
theorem takeover_lost_by_lookup :
    let s := unseenChange
    s.device.Settled 1003600 ∧ (s.step (.synchronize 1000100250)).answer = .applied true ∧
      s.service.lag.toInt ≤ ((1000100250 : Int64).toInt - s.device.now.millis.toInt).natAbs ∧
      ∃ u, ((s.after [.synchronize 1000100250, .refresh]).step .current).answer = .time (.ok u) ∧
        1000 < (u.millis.toInt - (1000100250 + s.service.forward.toInt)).natAbs := by
  intro s
  have hdue : ((s.service.synchronize 1000100250).run s.device).value.applied = true := by
    decide +kernel
  obtain ⟨u, hu, -, htotal⟩ := current_of_reaches (s.after [.synchronize 1000100250, .refresh])
    (by decide +kernel) (by decide +kernel) (by decide +kernel)
  have hearly : (s.after [.synchronize 1000100250, .refresh]).device.now.millis.toInt +
      (s.after [.synchronize 1000100250, .refresh]).service.exact = 1000100250 - 3600000 := by
    decide +kernel
  have hforward : s.service.forward.toInt = 0 := by decide +kernel
  have hmillis := Instant.toInt_millis_of_total htotal
  exact ⟨by decide +kernel, congrArg Answer.applied hdue, by decide +kernel, u, hu, by omega⟩

end BootClock.Session
