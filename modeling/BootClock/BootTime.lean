import BootClock.Fault
/-!
# Boot times

A boot time is a positive number of seconds since 1970. Zero is a kernel that never recorded one,
and is refused like a time before 1970 (`ofSeconds_eq_ok_iff`).
-/

namespace BootClock

/-- The second at which the device was started, counted from 1970-01-01T00:00:00Z. -/
structure BootTime where
  secs : Int64
  pos : 0 < secs.toInt
  deriving DecidableEq

namespace BootTime

/-- Checks what the kernel answered. -/
def ofSeconds (secs : Int64) : Except Fault BootTime :=
  if h : 0 < secs.toInt then .ok ⟨secs, h⟩
  else .error (if secs.toInt = 0 then .bootTimeUnset else .bootTimeNegative secs)

theorem ofSeconds_eq_ok_iff {secs : Int64} {b : BootTime} :
    ofSeconds secs = .ok b ↔ b.secs = secs := by
  unfold ofSeconds
  constructor
  · intro h
    split at h
    · cases h; rfl
    · cases h
  · rintro rfl
    simp [b.pos]

end BootTime

end BootClock
