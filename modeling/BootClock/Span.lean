import BootClock.Saturating
/-!
# Spans of time

A span is a signed length of time to the nanosecond, at most `2 ^ 63 - 1` milliseconds long either
way. The lowest 64-bit count of milliseconds is therefore the one that is no span
(`ofMillis?_eq_none_iff`).
-/

namespace BootClock

/-- The longest span, in nanoseconds. -/
def Span.longest : Int := 9223372036854775807000000

/-- A signed length of time, in nanoseconds. -/
structure Span where
  nanos : Int
  lower : -Span.longest ≤ nanos
  upper : nanos ≤ Span.longest
  deriving DecidableEq

namespace Span

def ofNanos? (n : Int) : Option Span :=
  if h : -longest ≤ n ∧ n ≤ longest then some ⟨n, h.1, h.2⟩ else none

/-- Whole seconds and nanoseconds forward of them. -/
def ofParts? (secs : Int64) (nanos : Nat) : Option Span :=
  if nanos < 1000000000 then ofNanos? (secs.toInt * 1000000000 + nanos) else none

def ofMillis? (millis : Int64) : Option Span := ofNanos? (millis.toInt * 1000000)

/-- The whole milliseconds of the span, truncated toward zero. -/
def millis (d : Span) : Int64 := clamp (d.nanos.tdiv 1000000)

theorem toInt_millis (d : Span) : d.millis.toInt = d.nanos.tdiv 1000000 := by
  have h1 := d.lower
  have h2 := d.upper
  unfold longest at h1 h2
  apply toInt_clamp_of_fits
  unfold Fits
  rcases Int.le_total 0 d.nanos with h | h
  · rw [Int.tdiv_eq_ediv_of_nonneg h]
    omega
  · have e : d.nanos.tdiv 1000000 = -((-d.nanos) / 1000000) := by
      rw [← Int.tdiv_eq_ediv_of_nonneg (by omega), Int.neg_tdiv, Int.neg_neg]
    rw [e]
    omega

theorem ofMillis?_eq_none_iff (m : Int64) :
    ofMillis? m = none ↔ m.toInt = -9223372036854775808 := by
  have h := fits_toInt m
  unfold Fits at h
  unfold ofMillis? ofNanos? longest
  split <;> simp <;> omega

theorem millis_of_ofMillis? {m : Int64} {d : Span} (h : ofMillis? m = some d) : d.millis = m := by
  unfold ofMillis? ofNanos? at h
  split at h
  · cases h
    apply Int64.toInt_inj.1
    rw [toInt_millis]
    exact Int.mul_tdiv_cancel _ (by decide)
  · cases h

end Span

end BootClock
