import BootClock.Proofs.Consistent
/-!
# Forward time

Forward time is on top of everything else. A run without the actions that are about it goes through
the same sessions less the forward time (`after_unforwarded`), and what each of its steps tells, reads
and notes is the same (`step_withoutForward`). A corrected time is the one of the run without them
plus the forward time, unless the device's clock stands in a leap second that lies between the two:
of the time added, that second is then gone on the way (`run_without_forward`).
-/

namespace BootClock

/-! ## Leap seconds -/

namespace Instant

/-- The length of the leap second that an instant is in, where it lies between two others, in
nanoseconds. -/
def leapBetween (t earlier later : Instant) : Int :=
  if ¬ t.Ordinary ∧ earlier ≤ t ∧ t ≤ later then 1000000000 else 0

/-- An instant in a leap second is after every other one up to that second, and before the rest. -/
theorem le_leap_iff {t u : Instant} (ht : ¬ t.Ordinary) (hu : u.Ordinary) :
    (u ≤ t ↔ u.secs ≤ t.secs) ∧ (t ≤ u ↔ t.secs < u.secs) := by
  have hle : u ≤ t ↔ u.secs < t.secs ∨ u.secs = t.secs ∧ u.nanos ≤ t.nanos := Iff.rfl
  have hge : t ≤ u ↔ t.secs < u.secs ∨ t.secs = u.secs ∧ t.nanos ≤ u.nanos := Iff.rfl
  unfold Ordinary at ht hu
  rw [hle, hge]
  omega

/-- A span's whole seconds and the nanoseconds left of it have its sign. -/
theorem parts_sign (n : Int) :
    (0 ≤ n → 0 ≤ n.tdiv 1000000000 ∧ 0 ≤ n.tmod 1000000000) ∧
      (n ≤ 0 → n.tdiv 1000000000 ≤ 0 ∧ n.tmod 1000000000 ≤ 0) := by
  have hnonneg : ∀ m : Int, 0 ≤ m → 0 ≤ m.tdiv 1000000000 ∧ 0 ≤ m.tmod 1000000000 := fun m hm =>
    ⟨Int.tdiv_nonneg hm (by decide), Int.tmod_nonneg _ hm⟩
  refine ⟨hnonneg n, fun hn => ?_⟩
  have hneg := hnonneg (-n) (by omega)
  rw [Int.neg_tdiv, Int.neg_tmod] at hneg
  omega

/-- Moving an instant adds the span to its count of nanoseconds. Out of a leap second forward, one
second of the span only leads to its end. -/
theorem total_of_add? {t u : Instant} {d : Span} (h : t.add? d = some u) (hu : u.Ordinary) :
    u.total = t.total + d.nanos - (if ¬ t.Ordinary ∧ t ≤ u then 1000000000 else 0) := by
  by_cases ht : t.Ordinary
  · have htotal := ((add?_eq_some_iff ht).1 h).1
    simp [ht, htotal]
  · have hd := Int.mul_tdiv_add_tmod d.nanos 1000000000
    obtain ⟨hpos, hneg⟩ := parts_sign d.nanos
    have hlow := Int.lt_tmod_of_pos d.nanos (b := 1000000000) (by decide)
    have hhigh := Int.tmod_lt_of_pos d.nanos (b := 1000000000) (by decide)
    have hle := (le_leap_iff ht hu).2
    have hleap : ¬ t.nanos < 1000000000 := ht
    have hbound := t.nanos_lt
    simp only [ht, not_false_eq_true, true_and, hle]
    simp only [add?, hleap, if_false] at h
    split at h
    · obtain ⟨htotal, -⟩ := normal?_eq_some_iff.1 h
      unfold total Ordinary at *
      rw [if_pos (by omega)]
      omega
    · split at h
      · obtain ⟨htotal, -⟩ := normal?_eq_some_iff.1 h
        unfold total Ordinary at *
        rw [if_neg (by omega)]
        omega
      · unfold of? at h
        split at h
        · cases h
          unfold total Ordinary at *
          dsimp only at *
          rw [if_neg (by omega)]
          omega
        · cases h

end Instant

namespace Session

/-! ## Runs without forward time -/

/-- The action adds forward time or takes it away. -/
def Action.isForward : Action → Bool
  | .forwardMillis _ | .forwardParts .. | .resetForward => true
  | _ => false

/-- The action asks for the corrected time, or for the time left by it. -/
def Action.asksTime : Action → Bool
  | .current | .remaining _ => true
  | _ => false

/-- A run without the actions that are about forward time. -/
def unforwarded (actions : List Action) : List Action := actions.filter fun a => !a.isForward

/-- The session with no forward time. -/
def withoutForward (s : Session) : Session := ⟨s.service.resetForward, s.device⟩

/-- What a step does with forward time, `step`, and without, `step'`: they differ in the forward time
that is left, and in the answer of an action that asks for the time. -/
structure SameButForward (a : Action) (step step' : Step) : Prop where
  session : step'.session = step.session.withoutForward
  fired : step'.fired = step.fired
  reads : step'.reads = step.reads
  events : step'.events = step.events
  answer : a.asksTime = false → step'.answer = step.answer

variable (s : Session)

theorem refresh_withoutForward :
    SameButForward .refresh (s.step .refresh) (s.withoutForward.step .refresh) := by
  simp only [step, change, Service.refresh, Probe.run_bind, Query.run_report, withoutForward]
  cases (Query.sampleOf s.device.now s.device.kernel.bootTime).map fun s =>
    Report.of s.uptime s.boot s.now <;> exact ⟨rfl, rfl, rfl, rfl, fun _ => rfl⟩

theorem updateUptime_withoutForward (millis : Int64) :
    SameButForward (.updateUptime millis) (s.step (.updateUptime millis))
      (s.withoutForward.step (.updateUptime millis)) := by
  cases hu : Uptime.ofMillis? millis with
  | some u =>
    rw [step_updateUptime _ hu, step_updateUptime _ hu]
    exact ⟨rfl, rfl, rfl, rfl, fun _ => rfl⟩
  | none =>
    simp only [step, hu]
    exact ⟨rfl, rfl, rfl, rfl, fun _ => rfl⟩

/-- The lead of a server's time is measured against the device's clock, and not against the corrected
time. -/
theorem synchronize_withoutForward (server : Int64) :
    SameButForward (.synchronize server) (s.step (.synchronize server))
      (s.withoutForward.step (.synchronize server)) := by
  by_cases hpos : 0 < server.toInt
  · rw [step_synchronize _ hpos, step_synchronize _ hpos]
    cases hdue : s.service.due (s.service.measure server s.device.now) with
    | false =>
      have hdue' : s.service.resetForward.due (s.service.resetForward.measure server s.device.now) =
          false := hdue
      simp only [withoutForward, Service.synchronizedAt_of_not_due hdue,
        Service.synchronizedAt_of_not_due hdue']
      exact ⟨rfl, rfl, rfl, rfl, fun _ => rfl⟩
    | true =>
      have hdue' : s.service.resetForward.due (s.service.resetForward.measure server s.device.now) =
          true := hdue
      simp only [withoutForward, Service.synchronizedAt_of_due hdue,
        Service.synchronizedAt_of_due hdue']
      exact ⟨rfl, rfl, rfl, rfl, fun _ => rfl⟩
  · simp only [step, Service.synchronize, if_pos (Int.not_lt.1 hpos)]
    exact ⟨rfl, rfl, rfl, rfl, fun _ => rfl⟩

theorem happen_withoutForward (a : Action) (d : Option Device) :
    SameButForward a (s.happen d) (s.withoutForward.happen d) := by
  cases d <;> exact ⟨rfl, rfl, rfl, rfl, fun _ => rfl⟩

theorem step_withoutForward {a : Action} (ha : a.isForward = false) :
    SameButForward a (s.step a) (s.withoutForward.step a) := by
  cases a with
  | refresh => exact refresh_withoutForward s
  | updateUptime millis => exact updateUptime_withoutForward s millis
  | synchronize server => exact synchronize_withoutForward s server
  | elapse | setByHand =>
    simp only [step]
    exact happen_withoutForward s _ _
  | current =>
    rw [step_current, step_current]
    refine ⟨rfl, rfl, rfl, rfl, fun h => ?_⟩
    cases h
  | remaining deadline =>
    rw [step_remaining, step_remaining]
    refine ⟨rfl, rfl, rfl, rfl, fun h => ?_⟩
    cases h
  | uncorrected | sinceStart | listen => exact ⟨rfl, rfl, rfl, rfl, fun _ => rfl⟩
  | setNow | setKernel | setTick => exact ⟨rfl, rfl, rfl, rfl, fun _ => rfl⟩
  | forwardMillis | forwardParts | resetForward => cases ha

/-- What is done to forward time cannot be seen without it. -/
theorem step_forward_withoutForward {a : Action} (ha : a.isForward = true) :
    (s.step a).session.withoutForward = s.withoutForward := by
  cases a with
  | forwardMillis millis => cases hd : Span.ofMillis? millis <;> simp only [step, hd] <;> rfl
  | forwardParts secs nanos => cases hd : Span.ofParts? secs nanos <;> simp only [step, hd] <;> rfl
  | resetForward => rfl
  | _ => cases ha

theorem after_unforwarded (actions : List Action) :
    s.withoutForward.after (unforwarded actions) = (s.after actions).withoutForward := by
  induction actions generalizing s with
  | nil => rfl
  | cons a rest ih =>
    cases ha : a.isForward with
    | false =>
      have hkept : unforwarded (a :: rest) = a :: unforwarded rest := by simp [unforwarded, ha]
      rw [hkept, after_cons, after_cons, (step_withoutForward s ha).session, ih]
    | true =>
      have hdropped : unforwarded (a :: rest) = unforwarded rest := by simp [unforwarded, ha]
      rw [hdropped, after_cons, ← ih, step_forward_withoutForward s ha]

/-- A new clock has no forward time. -/
theorem start_withoutForward (limits : Thresholds) (d : Device) :
    (start limits d).session.withoutForward = (start limits d).session := by
  rw [start_eq]
  exact (refresh_withoutForward ⟨.unanchored limits d.now d.ticked.steady, d.ticked⟩).session.symm

end Session

/-! ## Corrected times -/

namespace Service

/-- The corrected time at a clock reading, where the correction leads to an instant. -/
def instantAt? (s : Service) (now : Instant) : Option Instant :=
  (Span.ofMillis? s.correction).bind now.add?

variable {s : Service} {now u u' : Instant}

theorem corrected_of_instantAt? (h : s.instantAt? now = some u) : s.corrected now = .ok u := by
  unfold instantAt? at h
  obtain ⟨d, hd, hadd⟩ := Option.bind_eq_some_iff.1 h
  rw [corrected_of_span hd, hadd, Option.getD_some]

theorem total_of_instantAt? (hs : s.SumsFit) (h : s.instantAt? now = some u) (hu : u.Ordinary) :
    u.total = now.total + s.exact * 1000000 -
      (if ¬ now.Ordinary ∧ now ≤ u then 1000000000 else 0) := by
  unfold instantAt? at h
  obtain ⟨d, hd, hadd⟩ := Option.bind_eq_some_iff.1 h
  rw [Instant.total_of_add? hadd hu, Span.ofMillis?_eq_some_iff.1 hd, toInt_correction hs]

theorem exact_resetForward (s : Service) : s.resetForward.exact = s.exact - s.forward.toInt := by
  have hzero : (0 : Int64).toInt = 0 := by decide
  simp only [exact, resetForward, hzero]
  omega

theorem SumsFit.resetForward (hs : s.SumsFit) : s.resetForward.SumsFit := by
  have hexact := exact_resetForward s
  have hled := hs.led
  refine ⟨hs.moved, hled, ?_⟩
  rw [hexact]
  unfold exact
  unfold Fits at *
  omega

/-- Forward time is added to the corrected time, but for a leap second that is passed on the way. -/
theorem total_with_forward (hs : s.SumsFit) (hf : 0 ≤ s.forward.toInt)
    (h : s.instantAt? now = some u) (h' : s.resetForward.instantAt? now = some u')
    (hu : u.Ordinary) (hu' : u'.Ordinary) :
    u.total = u'.total + s.forward.toInt * 1000000 - now.leapBetween u' u := by
  have htotal := total_of_instantAt? hs h hu
  have htotal' := total_of_instantAt? hs.resetForward h' hu'
  rw [exact_resetForward] at htotal'
  unfold Instant.leapBetween
  by_cases hord : now.Ordinary
  · simp only [hord, not_true_eq_false, false_and, if_false] at htotal htotal' ⊢
    omega
  · obtain ⟨-, hafter⟩ := Instant.le_leap_iff hord hu
    obtain ⟨hbefore', hafter'⟩ := Instant.le_leap_iff hord hu'
    simp only [hord, not_false_eq_true, true_and, hafter, hafter', hbefore'] at htotal htotal' ⊢
    -- The later answer is not before the leap second if the earlier one is after it.
    unfold Instant.total Instant.Ordinary at *
    split at htotal <;> split at htotal' <;> split <;> omega

end Service

namespace Session

/-- **Forward time touches nothing else.** Without the actions that are about it a run reads the same,
tells the same listeners, takes the same servers' times over and leaves the same device and clock but
for the forward time itself; and where the correction leads to an instant in both runs, outside leap
seconds, the corrected time is that of the run without them plus the forward time, less the leap
second that the device's clock stands in, if it lies between the two. -/
theorem run_without_forward (limits : Thresholds) (d : Device) (before : List Action) :
    let s := (start limits d).session.after before
    let s' := (start limits d).session.after (unforwarded before)
    (∀ a, a.isForward = false → SameButForward a (s.step a) (s'.step a)) ∧
      ∀ u u', s.service.SumsFit → s.service.instantAt? s.device.now = some u →
        s'.service.instantAt? s'.device.now = some u' → u.Ordinary → u'.Ordinary →
        (s.step .current).answer = .time (.ok u) ∧ (s'.step .current).answer = .time (.ok u') ∧
          u.total = u'.total + s.service.forward.toInt * 1000000 - s.device.now.leapBetween u' u := by
  intro s s'
  have hs' : s' = s.withoutForward := by
    rw [← after_unforwarded, start_withoutForward]
  have hforward : 0 ≤ s.service.forward.toInt := by
    simp only [s, start_eq_made]
    exact (consistent_after_made _ _ _ _ before).forward_nonneg
  refine ⟨fun a ha => ?_, fun u u' hfit h h' hu hu' => ⟨?_, ?_, ?_⟩⟩
  · rw [hs']
    exact step_withoutForward s ha
  · rw [step_current, Service.corrected_of_instantAt? h]
  · rw [step_current, Service.corrected_of_instantAt? h']
  · rw [hs'] at h'
    exact Service.total_with_forward hfit hforward h h' hu hu'

/-- Forward time before and after a server's time that is taken over and a change by hand. -/
def mixed : List Action :=
  [.forwardMillis 400000, .synchronize 1000500000, .setByHand 3600, .refresh,
    .forwardParts (-310) 999999999, .elapse 250]

theorem mixed_without_forward :
    let s := (start {} .sample).session.after mixed
    let s' := (start {} .sample).session.after (unforwarded mixed)
    SameButForward (.synchronize 1000700000) (s.step (.synchronize 1000700000))
        (s'.step (.synchronize 1000700000)) ∧
      ∃ u u', (s.step .current).answer = .time (.ok u) ∧ (s'.step .current).answer = .time (.ok u') ∧
        u.total = u'.total + 91000000000 := by
  intro s s'
  obtain ⟨hsteps, htimes⟩ := run_without_forward {} .sample mixed
  let u : Instant := ⟨1000591, 250000000, by decide, by decide, by decide⟩
  let u' : Instant := ⟨1000500, 250000000, by decide, by decide, by decide⟩
  obtain ⟨hu, hu', htotal⟩ := htimes u u' (by decide +kernel) (by decide +kernel) (by decide +kernel)
    (by decide) (by decide)
  have hforward : s.service.forward.toInt = 91000 := by decide +kernel
  exact ⟨hsteps _ rfl, u, u', hu, hu', by decide +kernel⟩

/-- A device whose clock stands in the leap second at the end of 2016. -/
def leaping : Device :=
  { kernel := .answers 1000000
    now := ⟨1483228799, 1500000000, by decide, by decide, by decide⟩
    tick := 0 }

/-- Its server is five minutes behind, and 400 seconds of forward time lead over the leap second to
where an answer counts only 399 seconds more. -/
theorem forward_short_of_leap_second :
    let actions : List Action := [.synchronize 1483228500500, .forwardMillis 400000]
    let s := (start {} leaping).session.after actions
    let s' := (start {} leaping).session.after (unforwarded actions)
    ∃ u u', s.service.instantAt? s.device.now = some u ∧ u.Ordinary ∧
      s'.service.instantAt? s'.device.now = some u' ∧ u'.Ordinary ∧
      s.service.SumsFit ∧ s'.service.SumsFit ∧
      (s.step .current).answer = .time (.ok u) ∧ (s'.step .current).answer = .time (.ok u') ∧
      s.service.forward = 400000 ∧ u.total - u'.total = 399000000000 := by
  intro actions s s'
  let u : Instant := ⟨1483228899, 500000000, by decide, by decide, by decide⟩
  let u' : Instant := ⟨1483228500, 500000000, by decide, by decide, by decide⟩
  have hu : s.service.instantAt? s.device.now = some u := by decide +kernel
  have hu' : s'.service.instantAt? s'.device.now = some u' := by decide +kernel
  refine ⟨u, u', hu, by decide, hu', by decide, by decide +kernel, by decide +kernel, ?_, ?_,
    by decide +kernel, by decide +kernel⟩
  · rw [step_current, Service.corrected_of_instantAt? hu]
  · rw [step_current, Service.corrected_of_instantAt? hu']

end Session

end BootClock
