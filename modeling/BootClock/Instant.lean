import BootClock.Span
/-!
# Instants

An instant is a point of universal time between the first second of the year -262143 and the last
of the year 262142, to the nanosecond. A leap second prolongs the second before it, whose nanoseconds
then run up to two thousand million. It may follow any second, not only the last one of a minute.
-/

namespace BootClock

/-- The first and the last second there is, counted from 1970-01-01T00:00:00Z. -/
def Instant.firstSecond : Int := -8334601228800

@[inherit_doc Instant.firstSecond]
def Instant.lastSecond : Int := 8210266876799

/-- A point of time: whole seconds since 1970-01-01T00:00:00Z and nanoseconds forward of them. -/
structure Instant where
  secs : Int
  nanos : Nat
  first_le : Instant.firstSecond ≤ secs
  le_last : secs ≤ Instant.lastSecond
  nanos_lt : nanos < 2000000000
  deriving DecidableEq

namespace Instant

/-- In the order of time. A leap second lies between the second it prolongs and the next one. -/
instance : LE Instant := ⟨fun t u => t.secs < u.secs ∨ t.secs = u.secs ∧ t.nanos ≤ u.nanos⟩

instance (t u : Instant) : Decidable (t ≤ u) := inferInstanceAs (Decidable (_ ∨ _))

theorem secs_le_of_le {t u : Instant} (h : t ≤ u) : t.secs ≤ u.secs := by
  rcases h with h | h <;> omega

/-- The instant with these seconds and nanoseconds, if there is one. -/
def of? (secs : Int) (nanos : Nat) : Option Instant :=
  if h : firstSecond ≤ secs ∧ secs ≤ lastSecond ∧ nanos < 2000000000 then
    some ⟨secs, nanos, h.1, h.2.1, h.2.2⟩
  else none

theorem of?_secs_nanos (t : Instant) : of? t.secs t.nanos = some t :=
  dif_pos ⟨t.first_le, t.le_last, t.nanos_lt⟩

/-- 1970-01-01T00:00:00Z. -/
def epoch : Instant := ⟨0, 0, by decide, by decide, by decide⟩

/-- Whole milliseconds since 1970-01-01T00:00:00Z. -/
def millis (t : Instant) : Int64 := clamp (t.secs * 1000 + (t.nanos / 1000000 : Nat))

theorem toInt_millis (t : Instant) :
    t.millis.toInt = t.secs * 1000 + (t.nanos / 1000000 : Nat) := by
  have h1 := t.first_le
  have h2 := t.le_last
  have h3 := t.nanos_lt
  unfold firstSecond at h1
  unfold lastSecond at h2
  refine toInt_clamp_of_fits ⟨?_, ?_⟩ <;> omega

/-- Whole seconds since 1970-01-01T00:00:00Z, rounded down. -/
def seconds (t : Instant) : Int64 := clamp t.secs

theorem toInt_seconds (t : Instant) : t.seconds.toInt = t.secs := by
  have h1 := t.first_le
  have h2 := t.le_last
  unfold firstSecond at h1
  unfold lastSecond at h2
  refine toInt_clamp_of_fits ⟨?_, ?_⟩ <;> omega

/-- The point `nanos` nanoseconds after the second `secs`, for nanoseconds of any sign. -/
def normal? (secs nanos : Int) : Option Instant :=
  of? (secs + nanos / 1000000000) (nanos % 1000000000).toNat

/-- The instant moved by a span, if that is an instant. A move that leaves a leap second forward
starts in its first half and one that leaves it backward in the second after it; a shorter move
stays in it. -/
def add? (t : Instant) (d : Span) : Option Instant :=
  let secs := d.nanos.tdiv 1000000000
  let frac := d.nanos.tmod 1000000000
  if t.nanos < 1000000000 then normal? (t.secs + secs) (t.nanos + frac)
  else if 0 < secs ∨ (0 < frac ∧ 2000000000 ≤ t.nanos + frac) then
    normal? (t.secs + secs) (t.nanos - 1000000000 + frac)
  else if secs < 0 then normal? (t.secs + 1 + secs) (t.nanos - 1000000000 + frac)
  else of? t.secs (t.nanos + frac).toNat

end Instant

end BootClock
