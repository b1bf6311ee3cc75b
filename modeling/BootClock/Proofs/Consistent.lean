import BootClock.Proofs.Step
/-!
# What holds of every clock

Forward time is never negative; an offset is nothing or at least the lag threshold, and nothing while
no server's time was taken over (`Service.Consistent`). Each change of the clock keeps this, and none
gives a takeover up, so it holds throughout every run (`consistent_throughout`), whatever happens to
the device between the calls and between the two readings that a new clock makes.
-/

namespace BootClock

namespace Service

/-- What the offsets of a clock keep to. -/
structure Consistent (s : Service) : Prop where
  forward_nonneg : 0 ≤ s.forward.toInt
  offset : s.serverOffset = 0 ∨ s.lag.toInt ≤ s.serverOffset.toInt.natAbs
  unsynchronized : s.synchronized = false → s.serverOffset = 0

variable {s s' : Service}

theorem consistent_unanchored (limits : Thresholds) (now : Instant) (started : Nat) :
    (unanchored limits now started).Consistent :=
  ⟨show 0 ≤ (0 : Int64).toInt by decide, .inl rfl, fun _ => rfl⟩

/-- What is measured is nothing or at least the lag threshold. -/
theorem lag_le_measure (s : Service) (server : Int64) (now : Instant) :
    s.measure server now = 0 ∨ s.lag.toInt ≤ (s.measure server now).toInt.natAbs := by
  unfold measure
  dsimp only
  split
  · exact .inl rfl
  · next hge =>
    have habs := Saturating.toInt_abs (Saturating.sub server now.millis)
    right
    omega

namespace Consistent

theorem addForward (h : s.Consistent) (d : Span) : (s.addForward d).Consistent :=
  ⟨Session.addForward_nonneg s d, h.offset, h.unsynchronized⟩

theorem applied (h : s.Consistent) (server : Int64) (now : Instant) :
    (s.applied (s.measure server now)).Consistent :=
  ⟨h.forward_nonneg, lag_le_measure s server now, nofun⟩

theorem change (h : s.Consistent) (hc : s.Change s') : s'.Consistent := by
  cases hc with
  | none => exact h
  | learn boot => exact ⟨h.forward_nonneg, h.offset, h.unsynchronized⟩
  | takeover server now _ _ => exact h.applied server now
  | addForward d => exact h.addForward d
  | resetForward => exact ⟨show 0 ≤ (0 : Int64).toInt by decide, h.offset, h.unsynchronized⟩
  | listen name => exact ⟨h.forward_nonneg, h.offset, h.unsynchronized⟩

end Consistent

end Service

namespace Session

variable (limits : Thresholds) (now : Instant) (started : Nat) (d : Device)

theorem consistent_after_made (actions : List Action) :
    ((made limits now started d).after actions).service.Consistent :=
  service_after_made (fun hc h => h.change hc) (Service.consistent_unanchored limits now started) d
    actions

theorem lag_after_made (actions : List Action) :
    ((made limits now started d).after actions).service.lag = Service.millisOf limits.lag :=
  service_after_made (P := fun s => s.lag = Service.millisOf limits.lag)
    (fun hc h => hc.lag_eq.trans h) rfl d actions

/-- **In every run** of a clock forward time is never negative, the offset is nothing or at least the
lag threshold and nothing as long as no server's time was taken over; and once one was, that stays
so for the rest of the run. -/
theorem consistent_throughout (actions rest : List Action) :
    let s := ((made limits now started d).after actions).service
    let s' := ((made limits now started d).after (actions ++ rest)).service
    0 ≤ s.forward.toInt ∧
      (s.serverOffset = 0 ∨
        (Service.millisOf limits.lag).toInt ≤ s.serverOffset.toInt.natAbs) ∧
      (s.synchronized = false → s.serverOffset = 0) ∧
      (s.synchronized = true → s'.synchronized = true) := by
  intro s s'
  have h : s.Consistent := consistent_after_made limits now started d actions
  have hlag : s.lag = Service.millisOf limits.lag := lag_after_made limits now started d actions
  refine ⟨h.forward_nonneg, hlag ▸ h.offset, h.unsynchronized, fun hsync => ?_⟩
  simp only [s', after_append]
  exact synchronized_after _ rest hsync

end Session

end BootClock
