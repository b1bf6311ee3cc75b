import BootClock.Proofs.Range
/-!
# Runs in which nothing saturates

Sums that stop at the ends of the 64-bit counts on the way could leave a total wrong that is in range
again. With uptimes and servers' times of at most `2 ^ 61` milliseconds and no more forward time than
that none stops: every sum, difference and magnitude that the clock takes is the exact one
(`Service.Unsaturated`). The corrected time is then the device's time moved by the exact sum of the
parts of the correction, and the time left the exact difference (`exact_after_made`).
-/

namespace BootClock

namespace Saturating

/-- The sum does not stop short. -/
def AddExact (a b : Int64) : Prop := (add a b).toInt = a.toInt + b.toInt

/-- The difference does not stop short. -/
def SubExact (a b : Int64) : Prop := (sub a b).toInt = a.toInt - b.toInt

/-- The magnitude does not stop short. -/
def AbsExact (a : Int64) : Prop := (abs a).toInt = a.toInt.natAbs

theorem absExact_of_lowest_lt {a : Int64} (h : -2 ^ 63 < a.toInt) : AbsExact a := by
  have habs := toInt_abs a
  have hfits := fits_toInt a
  unfold Fits at hfits
  unfold AbsExact
  omega

end Saturating

open Saturating Instant

namespace Service

/-- Whatever the clock computes at a reading is exact, for an uptime and a server's time of at most
`2 ^ 61` milliseconds, a span added that is at most as long either way, and a deadline of at most
`2 ^ 62`. -/
structure Unsaturated (s : Service) (now : Instant) : Prop where
  /-- The boot time that a look-up gives. -/
  looked : ∀ (d : Device) (r : Report), (Query.report.run d).value = .ok r →
    SubExact r.sampledAt.millis r.millis
  /-- The boot time that an uptime measured elsewhere stands for. -/
  measured : ∀ u : Uptime, u.millis.toInt ≤ 2 ^ 61 → SubExact now.millis u.millis
  /-- What changes by hand come to. -/
  moved : SubExact s.anchor s.boot
  led : AddExact (sub s.anchor s.boot) s.serverOffset
  /-- The whole correction. -/
  total : AddExact (add (sub s.anchor s.boot) s.serverOffset) s.forward
  /-- The time left until a deadline. -/
  left : ∀ (deadline : Int64) (t : Instant), deadline.toInt.natAbs ≤ 2 ^ 62 →
    SubExact deadline t.millis
  /-- A server's lead, and how large it is. -/
  lead : ∀ server : Int64, 0 < server.toInt → server.toInt ≤ 2 ^ 61 →
    SubExact server now.millis ∧ AbsExact (sub server now.millis)
  /-- How far a lead that counts is from the offset in use. -/
  drift : ∀ server : Int64, 0 < server.toInt → server.toInt ≤ 2 ^ 61 →
    SubExact (s.measure server now) s.serverOffset ∧
      AbsExact (sub (s.measure server now) s.serverOffset)
  added : ∀ d : Span, d.nanos.natAbs ≤ 2 ^ 61 * 1000000 → AddExact s.forward d.millis

variable {s : Service} {now u : Instant}

/-! ## The sums of a correction -/

namespace SumsFit

theorem moved_exact (h : s.SumsFit) : SubExact s.anchor s.boot := toInt_sub_of_fits h.moved

theorem led_exact (h : s.SumsFit) : AddExact (sub s.anchor s.boot) s.serverOffset := by
  have hmoved : (sub s.anchor s.boot).toInt = _ := h.moved_exact
  have hled := h.led
  rw [← hmoved] at hled
  exact toInt_add_of_fits hled

theorem total_exact (h : s.SumsFit) :
    AddExact (add (sub s.anchor s.boot) s.serverOffset) s.forward := by
  have hmoved : (sub s.anchor s.boot).toInt = _ := h.moved_exact
  have hled : (add (sub s.anchor s.boot) s.serverOffset).toInt = _ := h.led_exact
  have htotal : Fits (s.anchor.toInt - s.boot.toInt + s.serverOffset.toInt + s.forward.toInt) :=
    h.total
  rw [← hmoved, ← hled] at htotal
  exact toInt_add_of_fits htotal

end SumsFit

namespace Within

theorem sumsFit (h : s.Within (2 ^ 61) (2 ^ 61)) (hnonneg : 0 ≤ s.forward.toInt)
    (hle : s.forward.toInt ≤ 2 ^ 61) : s.SumsFit := by
  obtain ⟨h1, h2, h3, h4, h5, h6⟩ := h
  unfold earliest firstSecond latest lastSecond at *
  constructor <;> unfold Fits
  · omega
  · omega
  · unfold exact
    omega

theorem lowest_lt_exact (h : s.Within (2 ^ 61) (2 ^ 61)) (hnonneg : 0 ≤ s.forward.toInt) :
    -2 ^ 63 < s.exact := by
  obtain ⟨h1, h2, h3, h4, h5, h6⟩ := h
  unfold earliest firstSecond latest lastSecond at *
  unfold exact
  omega

end Within

/-! ## Everything else that is computed -/

theorem looked_exact {d : Device} {r : Report} (h : (Query.report.run d).value = .ok r) :
    SubExact r.sampledAt.millis r.millis := by
  obtain ⟨boot, -, hpos, hle, hsampled, hmillis, -⟩ := Query.boot_of_report h
  have hread := d.now.toInt_millis_eq_phase
  have hphase := d.now.phase_nonneg
  have hfits := fits_toInt d.now.millis
  apply toInt_sub_of_fits
  rw [hsampled, hmillis]
  unfold Fits at *
  omega

theorem measured_exact {uptime : Uptime} (h : uptime.millis.toInt ≤ 2 ^ 61) (now : Instant) :
    SubExact now.millis uptime.millis := by
  have hge := now.earliest_le_millis
  have hle := now.millis_le_latest
  have hnonneg := uptime.nonneg
  apply toInt_sub_of_fits
  unfold earliest firstSecond latest lastSecond at *
  unfold Fits
  omega

theorem left_exact {deadline : Int64} (h : deadline.toInt.natAbs ≤ 2 ^ 62) (t : Instant) :
    SubExact deadline t.millis := by
  have hge := t.earliest_le_millis
  have hle := t.millis_le_latest
  apply toInt_sub_of_fits
  unfold earliest firstSecond latest lastSecond at *
  unfold Fits
  omega

theorem lead_exact {server : Int64} (hpos : 0 < server.toInt) (hle : server.toInt ≤ 2 ^ 61)
    (now : Instant) :
    SubExact server now.millis ∧ AbsExact (sub server now.millis) := by
  have hearly := now.earliest_le_millis
  have hlate := now.millis_le_latest
  unfold earliest firstSecond latest lastSecond at *
  have hlead : (sub server now.millis).toInt = _ :=
    toInt_sub_of_fits (show Fits (server.toInt - now.millis.toInt) by unfold Fits; omega)
  exact ⟨hlead, absExact_of_lowest_lt (by omega)⟩

/-- Both the lead and the offset in use are a server's time less a date. -/
theorem drift_exact {server : Int64} (h : s.Within (2 ^ 61) (2 ^ 61)) (hpos : 0 < server.toInt)
    (hle : server.toInt ≤ 2 ^ 61) (now : Instant) :
    SubExact (s.measure server now) s.serverOffset ∧
      AbsExact (sub (s.measure server now) s.serverOffset) := by
  obtain ⟨-, -, -, -, hlead, hlead'⟩ := h.takeover hpos hle now
  dsimp only [applied] at hlead hlead'
  obtain ⟨-, -, -, -, hoffset, hoffset'⟩ := h
  unfold earliest firstSecond latest lastSecond at *
  have hdrift : (sub (s.measure server now) s.serverOffset).toInt = _ :=
    toInt_sub_of_fits (show Fits ((s.measure server now).toInt - s.serverOffset.toInt) by
      unfold Fits; omega)
  exact ⟨hdrift, absExact_of_lowest_lt (by omega)⟩

theorem added_exact {d : Span} (hnonneg : 0 ≤ s.forward.toInt) (hle : s.forward.toInt ≤ 2 ^ 61)
    (hd : d.nanos.natAbs ≤ 2 ^ 61 * 1000000) : AddExact s.forward d.millis := by
  have hmillis := d.toInt_millis
  have hdiv : (d.nanos.tdiv 1000000).natAbs = d.nanos.natAbs / 1000000 := Int.natAbs_tdiv _ _
  apply toInt_add_of_fits
  unfold Fits
  omega

theorem Within.unsaturated (h : s.Within (2 ^ 61) (2 ^ 61)) (hnonneg : 0 ≤ s.forward.toInt)
    (hle : s.forward.toInt ≤ 2 ^ 61) (now : Instant) : s.Unsaturated now where
  looked _ _ hr := looked_exact hr
  measured _ hu := measured_exact hu now
  moved := (h.sumsFit hnonneg hle).moved_exact
  led := (h.sumsFit hnonneg hle).led_exact
  total := (h.sumsFit hnonneg hle).total_exact
  left _ t hdeadline := left_exact hdeadline t
  lead _ hpos hserver := lead_exact hpos hserver now
  drift _ hpos hserver := drift_exact h hpos hserver now
  added _ hd := added_exact hnonneg hle hd

/-! ## Answers -/

/-- The corrected time is exact where it is an instant, and the clock reading where it is none. -/
theorem corrected_exact (hs : s.SumsFit) (hlow : -2 ^ 63 < s.exact) (hn : now.Ordinary) :
    ∃ u, s.corrected now = .ok u ∧ u.Ordinary ∧
      (s.Reaches now → u.total = now.total + s.exact * 1000000) ∧ (¬ s.Reaches now → u = now) := by
  by_cases hr : s.Reaches now
  · obtain ⟨u, hu, hord, htotal⟩ := corrected_of_reaches hs hn hr
    exact ⟨u, hu, hord, fun _ => htotal, fun hnot => absurd hr hnot⟩
  · have hu := corrected_of_not_reaches hs hn hlow hr
    exact ⟨now, hu, hn, fun hreach => absurd hreach hr, fun _ => rfl⟩

theorem remainingAt_exact (hu : s.corrected now = .ok u) {deadline : Int64}
    (h : deadline.toInt.natAbs ≤ 2 ^ 62) :
    ∃ left, s.remainingAt deadline now = .ok left ∧
      left.nanos = (deadline.toInt - u.millis.toInt) * 1000000 := by
  have hleft : (sub deadline u.millis).toInt = _ := left_exact h u
  have hearly := u.earliest_le_millis
  have hlate := u.millis_le_latest
  unfold earliest firstSecond latest lastSecond at *
  unfold remainingAt
  rw [hu]
  cases hd : Span.ofMillis? (sub deadline u.millis) with
  | none =>
    have hlowest := (Span.ofMillis?_eq_none_iff _).1 hd
    omega
  | some left =>
    have hnanos := Span.ofMillis?_eq_some_iff.1 hd
    refine ⟨left, ?_, by rw [hnanos, hleft]⟩
    simp only [bind, Except.bind, hd]

end Service

namespace Session

/-- **In every run** with uptimes and servers' times of at most `2 ^ 61` milliseconds, as long as the
forward time is no more, nothing that the clock computes is cut off; outside leap seconds it answers
its device's time moved by the exact sum of anchor, boot time, offset and forward time, or the device's
time itself where that is no instant; and the time left until a deadline is the exact difference. -/
theorem exact_after_made {limits : Thresholds} {now : Instant} {started : Nat} {d : Device}
    {actions : List Action} (hbounds : ∀ a ∈ actions, a.Within (2 ^ 61) (2 ^ 61)) :
    let s := (made limits now started d).after actions
    s.service.forward.toInt ≤ 2 ^ 61 →
      (∀ reading, s.service.Unsaturated reading) ∧
      (s.device.now.Ordinary → ∃ u, (s.step .current).answer = .time (.ok u) ∧ u.Ordinary ∧
        (s.service.Reaches s.device.now →
          u.total = s.device.now.total + (s.service.anchor.toInt - s.service.boot.toInt +
            s.service.serverOffset.toInt + s.service.forward.toInt) * 1000000) ∧
        (¬ s.service.Reaches s.device.now → u = s.device.now) ∧
        ∀ deadline, deadline.toInt.natAbs ≤ 2 ^ 62 →
          ∃ left, (s.step (.remaining deadline)).answer = .left (.ok left) ∧
            left.nanos = (deadline.toInt - u.millis.toInt) * 1000000) := by
  intro s hle
  have hwithin : s.service.Within (2 ^ 61) (2 ^ 61) :=
    within_after_made limits now started d (by decide) (by decide) hbounds
  have hnonneg : 0 ≤ s.service.forward.toInt :=
    (consistent_after_made limits now started d actions).forward_nonneg
  refine ⟨hwithin.unsaturated hnonneg hle, fun hord => ?_⟩
  obtain ⟨u, hu, huord, hreach, hnot⟩ := Service.corrected_exact (hwithin.sumsFit hnonneg hle)
    (hwithin.lowest_lt_exact hnonneg) hord
  refine ⟨u, ?_, huord, hreach, hnot, fun deadline hdeadline => ?_⟩
  · rw [step_current, hu]
  · obtain ⟨left, hleft, hnanos⟩ := Service.remainingAt_exact hu hdeadline
    exact ⟨left, by rw [step_remaining, hleft], hnanos⟩

/-- Uptimes and servers' times of all sizes that are allowed, and a clock between two milliseconds. -/
def moderate : List Action :=
  [.updateUptime 2305843009213693952, .refresh, .synchronize 1000500000, .forwardParts 90 999999999,
    .setNow ⟨1000200, 123456789, by decide, by decide, by decide⟩, .updateUptime 40000]

theorem exact_after_moderate :
    let s := (made {} Device.sample.now 0 .sample).after moderate
    (∀ reading, s.service.Unsaturated reading) ∧
      ∃ u, (s.step .current).answer = .time (.ok u) ∧ u.total = 1000530999456789 := by
  intro s
  have hbounds : ∀ a ∈ moderate, a.Within (2 ^ 61) (2 ^ 61) := by
    simp [moderate, Action.Within]
  have hforward : s.service.forward.toInt ≤ 2 ^ 61 := by decide +kernel
  obtain ⟨hexact, hanswers⟩ := exact_after_made hbounds hforward
  obtain ⟨u, hu, -, hreach, -⟩ := hanswers (by decide +kernel)
  refine ⟨hexact, u, hu, ?_⟩
  rw [hreach (by decide +kernel)]
  decide +kernel

end Session

end BootClock
