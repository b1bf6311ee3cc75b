import BootClock.Proofs.Shift
import BootClock.Service
/-!
# The correction in exact numbers

Where no partial sum leaves the 64-bit counts the correction is the exact sum of its parts
(`toInt_correction`), and where the corrected time is an instant at all it is the clock reading moved
by that sum (`corrected_of_reaches`). Where it is none the reading itself is answered
(`corrected_of_not_reaches`).
-/

namespace BootClock

namespace Service

/-- The sum of the parts of the correction, in milliseconds. -/
def exact (s : Service) : Int :=
  s.anchor.toInt - s.boot.toInt + s.serverOffset.toInt + s.forward.toInt

/-- No partial sum of the correction leaves the 64-bit counts. -/
structure SumsFit (s : Service) : Prop where
  moved : Fits (s.anchor.toInt - s.boot.toInt)
  led : Fits (s.anchor.toInt - s.boot.toInt + s.serverOffset.toInt)
  total : Fits s.exact

instance (s : Service) : Decidable s.SumsFit :=
  decidable_of_iff (_ ∧ _ ∧ _) ⟨fun ⟨moved, led, total⟩ => ⟨moved, led, total⟩,
    fun ⟨moved, led, total⟩ => ⟨moved, led, total⟩⟩

/-- The corrected time at a clock reading lies between the first and the last instant. -/
def Reaches (s : Service) (now : Instant) : Prop :=
  Instant.firstSecond * 1000 ≤ now.millis.toInt + s.exact ∧
    now.millis.toInt + s.exact < (Instant.lastSecond + 1) * 1000

instance (s : Service) (now : Instant) : Decidable (s.Reaches now) :=
  inferInstanceAs (Decidable (_ ∧ _))

variable {s : Service} {now : Instant}

/-- Once a boot time is known the anchor stays where it is. -/
theorem anchor_learn (h : s.bootKnown = true) (boot : Int64) : (s.learn boot).anchor = s.anchor := by
  simp only [learn, h, if_true]

theorem toInt_correction (h : s.SumsFit) : s.correction.toInt = s.exact := by
  have hmoved := Saturating.toInt_sub_of_fits h.moved
  have hled : (Saturating.add (Saturating.sub s.anchor s.boot) s.serverOffset).toInt =
      s.anchor.toInt - s.boot.toInt + s.serverOffset.toInt := by
    rw [← hmoved]
    exact Saturating.toInt_add_of_fits (hmoved ▸ h.led)
  have htotal := h.total
  unfold exact at htotal ⊢
  rw [← hled] at htotal ⊢
  exact Saturating.toInt_add_of_fits htotal

/-- Every span but the lowest count is one that the clock can be moved by. -/
theorem exists_span (h : s.SumsFit) (hlow : -9223372036854775808 < s.exact) :
    ∃ d, Span.ofMillis? s.correction = some d ∧ d.nanos = s.exact * 1000000 := by
  have hc := toInt_correction h
  have hhigh := h.total.2
  refine ⟨⟨s.exact * 1000000, ?_, ?_⟩, Span.ofMillis?_eq_some_iff.2 (by rw [hc]), rfl⟩ <;>
    unfold Span.longest <;> omega

theorem corrected_of_span {d : Span} (h : Span.ofMillis? s.correction = some d) :
    s.corrected now = .ok ((now.add? d).getD now) := by
  unfold corrected
  rw [h]

theorem Reaches.low (h : s.Reaches now) : -9223372036854775808 < s.exact := by
  have hlast := now.le_last
  have hmillis := now.toInt_millis
  have hnanos := now.nanos_lt
  unfold Reaches Instant.firstSecond at h
  unfold Instant.lastSecond at hlast
  omega

theorem corrected_of_reaches (hs : s.SumsFit) (hn : now.Ordinary) (hr : s.Reaches now) :
    ∃ u, s.corrected now = .ok u ∧ u.Ordinary ∧ u.total = now.total + s.exact * 1000000 := by
  have hmillis := now.toInt_millis_eq_total
  obtain ⟨d, hd, hnanos⟩ := exists_span hs hr.low
  obtain ⟨hfirst, hlast⟩ := hr
  obtain ⟨u, htotal, hu⟩ := Instant.exists_total
    (show Instant.firstSecond * 1000000000 ≤ now.total + s.exact * 1000000 by omega)
    (show now.total + s.exact * 1000000 < (Instant.lastSecond + 1) * 1000000000 by omega)
  have hadd : now.add? d = some u := (Instant.add?_eq_some_iff hn).2 ⟨by rw [hnanos, htotal], hu⟩
  refine ⟨u, ?_, hu, htotal⟩
  rw [corrected_of_span hd, hadd, Option.getD_some]

theorem corrected_of_not_reaches (hs : s.SumsFit) (hn : now.Ordinary)
    (hlow : -9223372036854775808 < s.exact) (hr : ¬ s.Reaches now) :
    s.corrected now = .ok now := by
  obtain ⟨d, hd, hnanos⟩ := exists_span hs hlow
  cases hadd : now.add? d with
  | none => rw [corrected_of_span hd, hadd, Option.getD_none]
  | some u =>
    -- The instant that the clock was moved to would lie in the range.
    obtain ⟨htotal, hu⟩ := (Instant.add?_eq_some_iff hn).1 hadd
    rw [hnanos] at htotal
    have hmillis := Instant.toInt_millis_of_total htotal
    have hfirst := u.first_le
    have hlast := u.le_last
    have hphase := u.toInt_millis_eq_phase
    have hnonneg := u.phase_nonneg
    have hlt := hu.phase_lt
    exact absurd ⟨by omega, by omega⟩ hr

end Service

end BootClock
