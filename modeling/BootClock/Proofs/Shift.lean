import BootClock.Device
/-!
# Instants that are moved

Outside leap seconds an instant is its count of nanoseconds since 1970 (`total`), and moving it adds
to that count (`add?_eq_some_iff`). Each thing that happens to a device's clock is such a move.
-/

namespace BootClock

namespace Instant

/-- Nanoseconds since 1970-01-01T00:00:00Z. -/
def total (t : Instant) : Int := t.secs * 1000000000 + t.nanos

/-- The instant is in no leap second. -/
def Ordinary (t : Instant) : Prop := t.nanos < 1000000000

instance (t : Instant) : Decidable t.Ordinary := inferInstanceAs (Decidable (_ < _))

/-- Whole milliseconds since the second began. -/
def phase (t : Instant) : Int := (t.nanos / 1000000 : Nat)

theorem toInt_millis_eq_phase (t : Instant) : t.millis.toInt = t.secs * 1000 + t.phase :=
  toInt_millis t

theorem toInt_millis_eq_total (t : Instant) : t.millis.toInt = t.total / 1000000 := by
  rw [toInt_millis, total]
  omega

/-- Moving an instant by whole milliseconds moves its whole milliseconds. -/
theorem toInt_millis_of_total {t u : Instant} {e : Int} (h : u.total = t.total + e * 1000000) :
    u.millis.toInt = t.millis.toInt + e := by
  rw [toInt_millis_eq_total, toInt_millis_eq_total, h]
  omega

theorem phase_nonneg (t : Instant) : 0 ≤ t.phase := by
  unfold phase
  omega

theorem Ordinary.phase_lt {t : Instant} (h : t.Ordinary) : t.phase < 1000 := by
  unfold Ordinary at h
  unfold phase
  omega

theorem Ordinary.ext {t u : Instant} (ht : t.Ordinary) (hu : u.Ordinary) (h : t.total = u.total) :
    t = u := by
  cases t
  cases u
  simp only [Ordinary, total] at ht hu h
  congr 1 <;> omega

theorem normal?_eq_some_iff {secs nanos : Int} {u : Instant} :
    normal? secs nanos = some u ↔ u.total = secs * 1000000000 + nanos ∧ u.Ordinary := by
  unfold normal?
  constructor
  · intro h
    unfold of? at h
    split at h
    · cases h
      constructor
      · simp only [total]
        omega
      · simp only [Ordinary]
        omega
    · cases h
  · rintro ⟨h, hu⟩
    have hsecs : secs + nanos / 1000000000 = u.secs := by unfold total Ordinary at *; omega
    have hnanos : (nanos % 1000000000).toNat = u.nanos := by unfold total Ordinary at *; omega
    rw [hsecs, hnanos, of?_secs_nanos]

/-- Moving an instant adds the span to its count of nanoseconds; the result is in no leap second. -/
theorem add?_eq_some_iff {t u : Instant} {d : Span} (ht : t.Ordinary) :
    t.add? d = some u ↔ u.total = t.total + d.nanos ∧ u.Ordinary := by
  have hd := Int.mul_tdiv_add_tmod d.nanos 1000000000
  have hsum : (t.secs + d.nanos.tdiv 1000000000) * 1000000000 +
      (t.nanos + d.nanos.tmod 1000000000) = t.total + d.nanos := by
    unfold total
    omega
  have hnanos : t.nanos < 1000000000 := ht
  simp only [add?, hnanos, if_true, normal?_eq_some_iff, hsum]

/-- Between the first and the last second every count of nanoseconds is that of an instant. -/
theorem exists_total {n : Int} (h1 : firstSecond * 1000000000 ≤ n)
    (h2 : n < (lastSecond + 1) * 1000000000) : ∃ u : Instant, u.total = n ∧ u.Ordinary := by
  have hfirst : firstSecond ≤ n / 1000000000 := by omega
  have hlast : n / 1000000000 ≤ lastSecond := by omega
  have hnanos : (n % 1000000000).toNat < 1000000000 := by omega
  refine ⟨⟨n / 1000000000, (n % 1000000000).toNat, hfirst, hlast, by omega⟩, ?_, hnanos⟩
  simp only [total]
  omega

end Instant

namespace Span

theorem ofMillis?_eq_some_iff {m : Int64} {d : Span} :
    ofMillis? m = some d ↔ d.nanos = m.toInt * 1000000 := by
  unfold ofMillis? ofNanos?
  constructor
  · intro h
    split at h
    · cases h
      rfl
    · cases h
  · intro h
    rw [← h, dif_pos ⟨d.lower, d.upper⟩]

theorem ofParts?_zero_eq_some {secs : Int64} {d : Span} (h : ofParts? secs 0 = some d) :
    d.nanos = secs.toInt * 1000000000 := by
  unfold ofParts? ofNanos? at h
  rw [if_pos (by decide)] at h
  split at h
  · cases h
    simp
  · cases h

end Span

/-! ## What happens to a device's clock -/

namespace Device

variable {d e : Device}

theorem elapse?_eq_some {millis : Int64} (hd : d.now.Ordinary) (h : d.elapse? millis = some e) :
    e = { d with now := e.now } ∧ e.now.total = d.now.total + millis.toInt * 1000000 ∧
      e.now.Ordinary := by
  unfold elapse? later? at h
  obtain ⟨now, hnow, rfl⟩ := Option.map_eq_some_iff.1 h
  obtain ⟨span, hspan, hadd⟩ := Option.bind_eq_some_iff.1 hnow
  obtain ⟨htotal, hord⟩ := (Instant.add?_eq_some_iff hd).1 hadd
  rw [Span.ofMillis?_eq_some_iff.1 hspan] at htotal
  exact ⟨rfl, htotal, hord⟩

/-- A change by hand moves a boot time that is not ahead of the clock by exactly as much as it. -/
theorem setByHand?_eq_some {secs boot : Int64} (hd : d.now.Ordinary)
    (hk : d.kernel = .answers boot) (hle : boot.toInt ≤ d.now.secs)
    (hpos : 1 ≤ boot.toInt + secs.toInt) (h : d.setByHand? secs = some e) :
    ∃ boot' : Int64, e = { d with now := e.now, kernel := .answers boot' } ∧
      boot'.toInt = boot.toInt + secs.toInt ∧ boot'.toInt ≤ e.now.secs ∧
      e.now.total = d.now.total + secs.toInt * 1000000000 ∧ e.now.Ordinary := by
  unfold setByHand? at h
  obtain ⟨span, hspan, h⟩ := Option.bind_eq_some_iff.1 h
  obtain ⟨now, hadd, h⟩ := Option.bind_eq_some_iff.1 h
  obtain ⟨htotal, hord⟩ := (Instant.add?_eq_some_iff hd).1 hadd
  rw [Span.ofParts?_zero_eq_some hspan] at htotal
  have hmoved : boot.toInt + secs.toInt ≤ now.secs := by
    unfold Instant.total Instant.Ordinary at *
    omega
  have hlast := now.le_last
  unfold Instant.lastSecond at hlast
  have hsum : (Saturating.add boot secs).toInt = boot.toInt + secs.toInt :=
    Saturating.toInt_add_of_fits ⟨by omega, by omega⟩
  rw [hk] at h
  cases h
  exact ⟨_, rfl, hsum, hsum ▸ hmoved, htotal, hord⟩

/-- A device whose clock does not move when it is read. -/
theorem ticked_of_still (hd : d.now.Ordinary) (ht : d.tick = 0) : d.ticked = d := by
  have hspan : Span.ofMillis? 0 = some ⟨0, by decide, by decide⟩ := by decide
  have hadd : d.now.add? ⟨0, by decide, by decide⟩ = some d.now :=
    (Instant.add?_eq_some_iff hd).2 ⟨by simp, hd⟩
  have hlater : d.later? d.tick = some d.now := by simp [later?, ht, hspan, hadd]
  simp [ticked, elapse?, hlater]

end Device

end BootClock
