import BootClock.Proofs.Consistent
import Mathlib.Algebra.Group.Int.Defs
import Mathlib.Algebra.Group.Nat.Defs
/-!
# How far a correction goes

Every clock reading is a date, so an anchor and a boot time are a date less an uptime, and an offset
is a server's time less a date (`Service.Within`). What bounds the uptimes and the servers' times of a
run therefore bounds the parts of its corrections (`within_after_made`). The offset is always a span of
time; as long as no uptime measured elsewhere is above `2 ^ 62` milliseconds no correction is the
lowest count, so the clock answers, and the time left is refused exactly where it is no span
(`answers_after_made`).
-/

namespace BootClock

namespace Instant

/-- The milliseconds of the first instant. -/
def earliest : Int := firstSecond * 1000

/-- The milliseconds of the last instant, in the leap second after the last second. -/
def latest : Int := lastSecond * 1000 + 1999

theorem earliest_le_millis (t : Instant) : earliest ≤ t.millis.toInt := by
  have hfirst := t.first_le
  rw [toInt_millis, earliest]
  omega

theorem millis_le_latest (t : Instant) : t.millis.toInt ≤ latest := by
  have hlast := t.le_last
  have hnanos := t.nanos_lt
  rw [toInt_millis, latest]
  omega

end Instant

open Instant

/-! ## Bounds on the parts of a correction -/

namespace Service

/-- The parts of the correction are what clock readings make of uptimes and servers' times that are
bounded so. -/
structure Within (uptime server : Int) (s : Service) : Prop where
  anchor_ge : earliest - uptime ≤ s.anchor.toInt
  anchor_le : s.anchor.toInt ≤ latest
  boot_ge : earliest - uptime ≤ s.boot.toInt
  boot_le : s.boot.toInt ≤ latest
  offset_gt : -latest < s.serverOffset.toInt
  offset_le : s.serverOffset.toInt ≤ server - earliest

variable {s : Service} {uptime server : Int}

theorem within_unanchored (limits : Thresholds) (now : Instant) (started : Nat) (hup : 0 ≤ uptime)
    (hserver : 0 ≤ server) : (unanchored limits now started).Within uptime server := by
  have hge := now.earliest_le_millis
  have hle := now.millis_le_latest
  have hzero : (0 : Int64).toInt = 0 := by decide
  constructor <;> simp only [unanchored, hzero]
  · omega
  · exact hle
  · omega
  · exact hle
  · decide
  · unfold earliest firstSecond
    omega

namespace Within

/-- A boot time that is a date less a bounded uptime becomes the latest one, and the anchor at most. -/
theorem learn {boot : Int64} (h : s.Within uptime server) (hge : earliest - uptime ≤ boot.toInt)
    (hle : boot.toInt ≤ latest) : (s.learn boot).Within uptime server := by
  have hanchor : (s.learn boot).anchor = s.anchor ∨ (s.learn boot).anchor = boot := by
    unfold Service.learn
    cases s.bootKnown
    · exact .inr rfl
    · exact .inl rfl
  refine ⟨?_, ?_, hge, hle, h.offset_gt, h.offset_le⟩ <;> rcases hanchor with heq | heq <;> rw [heq]
  · exact h.anchor_ge
  · exact hge
  · exact h.anchor_le
  · exact hle

theorem updateUptime {u : Uptime} (h : s.Within uptime server) (hu : u.millis.toInt ≤ uptime)
    (now : Instant) : (s.learn (Saturating.sub now.millis u.millis)).Within uptime server := by
  have hsub : (Saturating.sub now.millis u.millis).toInt = _ :=
    toInt_clamp (now.millis.toInt - u.millis.toInt)
  have hge := now.earliest_le_millis
  have hle := now.millis_le_latest
  have hnonneg := u.nonneg
  have hlatest : 0 ≤ latest := by decide
  refine h.learn ?_ ?_ <;> unfold latest lastSecond at * <;> omega

/-- What is looked up is a boot time after 1970 and before the clock reading. -/
theorem refresh (h : s.Within uptime server) (hup : 0 ≤ uptime) (d : Device) :
    (s.refreshed (Query.report.run d).value).Within uptime server := by
  cases hr : (Query.report.run d).value with
  | error f => exact h
  | ok r =>
    obtain ⟨boot, -, hpos, hle, -, -, hboot⟩ := Query.boot_of_report hr
    have hphase := d.now.phase_nonneg
    have hmillis := d.now.toInt_millis_eq_phase
    have hlatest := d.now.millis_le_latest
    have hearliest : earliest ≤ 0 := by decide
    refine h.learn ?_ ?_ <;> omega

/-- A lead is at most as far back as the clock is forward, and at most as far forward as the server's
time is and the clock is back. -/
theorem takeover {time : Int64} (h : s.Within uptime server) (hpos : 0 < time.toInt)
    (hle : time.toInt ≤ server) (now : Instant) :
    (s.applied (s.measure time now)).Within uptime server := by
  have hmeasure := toInt_measure_eq_clamp s time now
  have hclamp := toInt_clamp (time.toInt - now.millis.toInt)
  have hearly := now.earliest_le_millis
  have hlate := now.millis_le_latest
  refine ⟨h.boot_ge, h.boot_le, h.boot_ge, h.boot_le, ?_, ?_⟩ <;> dsimp only [Service.applied]
  · unfold latest lastSecond at *
    split at hmeasure <;> omega
  · unfold earliest firstSecond at *
    split at hmeasure <;> omega

/-- The uptime pushes the correction down by so much at most, and the offset by a date; added time
only pushes it up, where it may stop at the highest count. -/
theorem lowest_lt_correction (h : s.Within (2 ^ 62) server) (hforward : 0 ≤ s.forward.toInt) :
    -2 ^ 63 < s.correction.toInt := by
  have hmoved := toInt_clamp (s.anchor.toInt - s.boot.toInt)
  have hled := toInt_clamp ((Saturating.sub s.anchor s.boot).toInt + s.serverOffset.toInt)
  have htotal := toInt_clamp ((Saturating.add (Saturating.sub s.anchor s.boot)
    s.serverOffset).toInt + s.forward.toInt)
  obtain ⟨hanchor, -, -, hboot, hoffset, -⟩ := h
  unfold correction Saturating.add Saturating.sub at *
  unfold earliest firstSecond latest lastSecond at *
  omega

end Within

/-! ## Answers that are spans of time -/

theorem corrected_of_lowest_lt (h : -2 ^ 63 < s.correction.toInt) (now : Instant) :
    ∃ u, s.corrected now = .ok u := by
  cases hd : Span.ofMillis? s.correction with
  | none => exact absurd ((Span.ofMillis?_eq_none_iff _).1 hd) (by omega)
  | some d => exact ⟨_, corrected_of_span hd⟩

theorem offset_of_lowest_lt (h : -2 ^ 63 < s.serverOffset.toInt) :
    ∃ span, s.offset = .ok span ∧ span.millis = s.serverOffset := by
  unfold offset
  cases hd : Span.ofMillis? s.serverOffset with
  | none => exact absurd ((Span.ofMillis?_eq_none_iff _).1 hd) (by omega)
  | some d => exact ⟨d, rfl, Span.millis_of_ofMillis? hd⟩

/-- The time left stops at the ends of the counts, and the lowest one is no span. -/
theorem remainingAt_eq_error_iff {now u : Instant} (hu : s.corrected now = .ok u) (deadline : Int64) :
    s.remainingAt deadline now = .error .noSuchSpan ↔
      deadline.toInt - u.millis.toInt ≤ -2 ^ 63 := by
  have hclamp : (Saturating.sub deadline u.millis).toInt = _ :=
    toInt_clamp (deadline.toInt - u.millis.toInt)
  have hnone := Span.ofMillis?_eq_none_iff (Saturating.sub deadline u.millis)
  unfold remainingAt
  rw [hu]
  cases hd : Span.ofMillis? (Saturating.sub deadline u.millis) with
  | none =>
    have hlowest := hnone.1 hd
    simp only [bind, Except.bind, hd, true_iff]
    omega
  | some d =>
    have hlowest : (Saturating.sub deadline u.millis).toInt ≠ -9223372036854775808 := by
      intro heq
      rw [hnone.2 heq] at hd
      cases hd
    simp only [bind, Except.bind, hd, reduceCtorEq, false_iff]
    omega

end Service

/-! ## Runs -/

namespace Session

/-- An uptime measured elsewhere or a server's time is bounded so. -/
def Action.Within (uptime server : Int) : Action → Prop
  | .updateUptime millis => millis.toInt ≤ uptime
  | .synchronize time => time.toInt ≤ server
  | _ => True

variable {s : Session} {uptime server : Int}

theorem within_forward (h : s.service.Within uptime server) (d : Option Span) :
    (s.forward d).session.service.Within uptime server := by
  cases d with
  | none => exact h
  | some d => exact { h with }

theorem within_synchronize {time : Int64} (h : s.service.Within uptime server)
    (hle : time.toInt ≤ server) :
    (s.step (.synchronize time)).session.service.Within uptime server := by
  rcases s.takenOver_or_ignored time with htaken | hignored
  · rw [htaken.service]
    exact h.takeover htaken.pos hle _
  · rw [hignored.service]
    exact h

theorem within_step {a : Action} (h : s.service.Within uptime server) (hup : 0 ≤ uptime)
    (ha : a.Within uptime server) : (s.step a).session.service.Within uptime server := by
  cases a with
  | refresh =>
    rw [step_refresh]
    exact h.refresh hup _
  | updateUptime millis =>
    cases hu : Uptime.ofMillis? millis with
    | some u =>
      rw [step_updateUptime s hu]
      have hmillis := Uptime.ofMillis?_eq_some_iff.1 hu
      exact h.updateUptime (hmillis ▸ ha) _
    | none =>
      simp only [step, hu]
      exact h
  | synchronize time => exact within_synchronize h ha
  | forwardMillis | forwardParts => exact within_forward h _
  | listen | resetForward => exact { h with }
  | current | uncorrected | remaining | sinceStart => exact h
  | setNow | setKernel | setTick | elapse | setByHand =>
    simp only [step, service_happen]
    exact h

theorem within_after {actions : List Action} (h : s.service.Within uptime server) (hup : 0 ≤ uptime)
    (ha : ∀ a ∈ actions, a.Within uptime server) :
    (s.after actions).service.Within uptime server := by
  induction actions generalizing s with
  | nil => exact h
  | cons a rest ih =>
    rw [after_cons]
    refine ih (within_step h hup (ha a List.mem_cons_self)) ?_
    intro b hb
    exact ha b (List.mem_cons_of_mem a hb)

theorem within_after_made {actions : List Action} (limits : Thresholds) (now : Instant)
    (started : Nat) (d : Device) (hup : 0 ≤ uptime) (hserver : 0 ≤ server)
    (ha : ∀ a ∈ actions, a.Within uptime server) :
    ((made limits now started d).after actions).service.Within uptime server := by
  refine within_after ?_ hup ha
  rw [made, step_refresh]
  exact (Service.within_unanchored limits now started hup hserver).refresh hup d

/-! ## Where the clock gives no answer -/

/-- **The clock answers in every run**: its offset is a span of time, and if no uptime measured
elsewhere was above `2 ^ 62` milliseconds, the corrected time is an instant, and the time left until a
deadline is refused exactly if it is below every span. -/
theorem answers_after_made (limits : Thresholds) (now : Instant) (started : Nat) (d : Device)
    (actions : List Action) :
    let s := (made limits now started d).after actions
    (∃ span, s.service.offset = .ok span ∧ span.millis = s.service.serverOffset) ∧
      ((∀ millis, .updateUptime millis ∈ actions → millis.toInt ≤ 2 ^ 62) →
        ∃ u, (s.step .current).answer = .time (.ok u) ∧
          ∀ deadline, (s.step (.remaining deadline)).answer = .left (.error .noSuchSpan) ↔
            deadline.toInt - u.millis.toInt ≤ -2 ^ 63) := by
  intro s
  have hlimited : s.service.Limited limits := limited_after_made limits now started d actions
  refine ⟨Service.offset_of_lowest_lt hlimited.offset, fun hup => ?_⟩
  have hbounds : ∀ a ∈ actions, a.Within (2 ^ 62) (2 ^ 63) := by
    intro a ha
    cases a with
    | updateUptime millis => exact hup millis ha
    | synchronize time => exact Int.le_of_lt time.toInt_lt
    | _ => trivial
  have hwithin : s.service.Within (2 ^ 62) (2 ^ 63) :=
    within_after_made limits now started d (by decide) (by decide) hbounds
  have hforward : 0 ≤ s.service.forward.toInt :=
    (consistent_after_made limits now started d actions).forward_nonneg
  obtain ⟨u, hu⟩ := Service.corrected_of_lowest_lt (hwithin.lowest_lt_correction hforward) s.device.now
  refine ⟨u, ?_, fun deadline => ?_⟩
  · rw [step_current, hu]
  · rw [step_remaining, ← Service.remainingAt_eq_error_iff hu]
    simp only [Answer.left.injEq]

/-- A run with the longest uptime that is allowed, the latest server's time there is and the most
time that can be added. -/
def extreme : List Action :=
  [.updateUptime 4611686018427387904, .synchronize 9223372036854775807,
    .forwardMillis 9223372036854775807]

/-- Its correction leads out of the instants, so the clock answers its device's time. -/
theorem answers_after_extreme :
    let s := (made {} Device.sample.now 0 .sample).after extreme
    (∃ span, s.service.offset = .ok span ∧ span.millis = s.service.serverOffset) ∧
      ∃ u, (s.step .current).answer = .time (.ok u) ∧ u.millis = 1000100250 ∧
        (s.step (.remaining (-9223372036854775808))).answer = .left (.error .noSuchSpan) ∧
        (s.step (.remaining (-9223372035854675557))).answer ≠ .left (.error .noSuchSpan) := by
  intro s
  have hup : ∀ millis, .updateUptime millis ∈ extreme → millis.toInt ≤ 2 ^ 62 := by
    intro millis hmem
    simp only [extreme, List.mem_cons, Action.updateUptime.injEq, reduceCtorEq, List.not_mem_nil,
      or_false] at hmem
    rw [hmem]
    decide
  obtain ⟨hoffset, hanswers⟩ := answers_after_made {} Device.sample.now 0 .sample extreme
  obtain ⟨u, hu, hleft⟩ := hanswers hup
  let longest : Span := ⟨Span.longest, by decide, by decide⟩
  have hspan : Span.ofMillis? s.service.correction = some longest := by decide +kernel
  have hnone : s.device.now.add? longest = none := by decide +kernel
  obtain rfl : u = s.device.now := by
    rw [step_current, Service.corrected_of_span hspan, hnone] at hu
    exact (Except.ok.inj (Answer.time.inj hu)).symm
  have hmillis : s.device.now.millis = 1000100250 := by decide +kernel
  refine ⟨hoffset, _, hu, hmillis, ?_, ?_⟩ <;> rw [hmillis] at hleft
  · exact (hleft _).2 (by decide)
  · exact fun herror => absurd ((hleft _).1 herror) (by decide)

/-- A longer uptime moves the anchor so far back that the next look-up leaves no span to correct by. -/
example :
    let s := (made {} .epoch 0 { Device.sample with kernel := .unsupported, now := .epoch }).after
      [.updateUptime 9223372036854775807, .setNow Device.sample.now, .setKernel (.answers 1000000),
        .refresh]
    Span.ofMillis? s.service.correction = none := by decide +kernel

end Session

end BootClock
