import BootClock.Proofs.Correction
import BootClock.Proofs.Lookup
import BootClock.Proofs.Takeover
/-!
# Single steps

What each action does to the clock and to its device. Taken together, a step changes the clock in one
of a few ways or not at all (`Service.Change`, `change_step`), and what each of these keeps is kept by
every run.
-/

namespace BootClock

/-- What a step can do to the clock. -/
inductive Service.Change (s : Service) : Service → Prop where
  | none : Change s s
  | learn (boot : Int64) : Change s (s.learn boot)
  | takeover (server : Int64) (now : Instant) : 0 < server.toInt →
      s.due (s.measure server now) = true → Change s (s.applied (s.measure server now))
  | addForward (d : Span) : Change s (s.addForward d)
  | resetForward : Change s s.resetForward
  | listen (name : String) : Change s (s.listen name)

namespace Service.Change

variable {s s' : Service}

theorem lag_eq (h : s.Change s') : s'.lag = s.lag := by
  cases h <;> rfl

/-- No change gives a takeover up. -/
theorem synchronized_of (h : s.Change s') (hs : s.synchronized = true) : s'.synchronized = true := by
  cases h with
  | takeover => rfl
  | _ => exact hs

/-- Nor is a boot time forgotten. -/
theorem bootKnown_of (h : s.Change s') (hs : s.bootKnown = true) : s'.bootKnown = true := by
  cases h with
  | learn => rfl
  | _ => exact hs

end Service.Change

/-- The clock has these thresholds, and its offset is a span of time. -/
structure Service.Limited (limits : Thresholds) (s : Service) : Prop where
  lag : s.lag = millisOf limits.lag
  resync : s.resync = millisOf limits.resync
  offset : -9223372036854775808 < s.serverOffset.toInt

theorem Service.limited_unanchored (limits : Thresholds) (now : Instant) (started : Nat) :
    Limited limits (unanchored limits now started) :=
  ⟨rfl, rfl, show -9223372036854775808 < (0 : Int64).toInt by decide⟩

theorem Service.Change.limited_of {s s' : Service} {limits : Thresholds} (h : s.Change s')
    (hs : s.Limited limits) : s'.Limited limits := by
  obtain ⟨hlag, hresync, hoffset⟩ := hs
  cases h with
  | takeover server now hpos _ => exact ⟨hlag, hresync, lowest_lt_measure hpos⟩
  | _ => exact ⟨hlag, hresync, hoffset⟩

namespace Session

variable (s : Session)

@[simp] theorem after_nil : s.after [] = s := rfl

@[simp] theorem after_cons (a : Action) (rest : List Action) :
    s.after (a :: rest) = (s.step a).session.after rest := rfl

theorem after_append (actions rest : List Action) :
    s.after (actions ++ rest) = (s.after actions).after rest := List.foldl_append

/-! ## Readings -/

theorem step_current : s.step .current =
    ⟨⟨s.service, s.device.ticked⟩, .time (s.service.corrected s.device.now), [], [.clock], []⟩ := by
  unfold step ask Service.current
  simp only [Probe.run_bind, Probe.run_readClock, Probe.run_pure, List.append_nil]

/-- The corrected time, where it is an instant, is what the clock is asked for. -/
theorem current_of_reaches (hs : s.service.SumsFit) (hn : s.device.now.Ordinary)
    (hr : s.service.Reaches s.device.now) :
    ∃ u, (s.step .current).answer = .time (.ok u) ∧ u.Ordinary ∧
      u.total = s.device.now.total + s.service.exact * 1000000 := by
  obtain ⟨u, hu, hord, htotal⟩ := Service.corrected_of_reaches hs hn hr
  refine ⟨u, ?_, hord, htotal⟩
  rw [step_current, hu]

theorem step_uncorrected : s.step .uncorrected =
    ⟨⟨s.service, s.device.ticked⟩, .time (.ok s.device.now), [], [.clock], []⟩ := rfl

theorem step_remaining (deadline : Int64) : s.step (.remaining deadline) =
    ⟨⟨s.service, s.device.ticked⟩, .left (s.service.remainingAt deadline s.device.now), [],
      [.clock], []⟩ := by
  unfold step ask Service.remaining
  simp only [Probe.run_bind, Probe.run_readClock, Probe.run_pure, List.append_nil]

/-! ## Boot times -/

theorem step_refresh : (s.step .refresh).session =
    ⟨s.service.refreshed (Query.report.run s.device).value, s.device.ticked⟩ := by
  simp only [step, change, Service.refresh, Probe.run_bind, Query.run_report]
  cases (Query.sampleOf s.device.now s.device.kernel.bootTime).map fun s =>
    Report.of s.uptime s.boot s.now <;> rfl

/-- A look-up at a kernel that answers takes note of its boot time. -/
theorem step_refresh_of_boot {boot : Int64} (hk : s.device.kernel = .answers boot)
    (hpos : 1 ≤ boot.toInt) (hle : boot.toInt ≤ s.device.now.secs) :
    ∃ found : Int64, found.toInt = boot.toInt * 1000 + s.device.now.phase ∧
      (s.step .refresh).session = ⟨s.service.learn found, s.device.ticked⟩ := by
  obtain ⟨r, hr, hboot⟩ := Query.toInt_bootOf hk hpos hle
  refine ⟨_, hboot, ?_⟩
  rw [step_refresh, hr]
  rfl

theorem step_refresh_of_settled {boot : Int64} (hd : s.device.Settled boot) :
    ∃ found : Int64, found.toInt = boot.toInt * 1000 + s.device.now.phase ∧
      (s.step .refresh).session = ⟨s.service.learn found, s.device⟩ := by
  obtain ⟨found, hfound, hstep⟩ := step_refresh_of_boot s hd.answers hd.pos hd.le_now
  rw [hd.ticked] at hstep
  exact ⟨found, hfound, hstep⟩

/-- A look-up that is answered takes note of the boot time and does nothing else. -/
theorem step_refresh_of_report {r : Report} (h : (Query.report.run s.device).value = .ok r) :
    s.step .refresh = ⟨⟨s.service.learn (Service.bootOf r), s.device.ticked⟩, .done, [],
      [.clock, .kernel], []⟩ := by
  rw [Query.run_report] at h
  simp only [step, change, Service.refresh, Probe.run_bind, Query.run_report, h]
  rfl

/-- A look-up that the device refuses changes nothing and notes why. -/
theorem step_refresh_of_refusal {f : Fault} (h : s.device.refusal? = some f) :
    s.step .refresh =
      ⟨⟨s.service, s.device.ticked⟩, .done, [], [.clock, .kernel], [.bootTimeKept f]⟩ := by
  simp only [step, change, Service.refresh, Probe.run_bind, Query.run_report,
    Query.sampleOf_of_refusal h]
  rfl

/-- A look-up at a kernel that is ahead of the clock leaves the clock as it was. -/
theorem step_refresh_of_ahead {boot : Int64} (hk : s.device.kernel = .answers boot)
    (hlt : s.device.now.secs < boot.toInt) :
    (s.step .refresh).session = ⟨s.service, s.device.ticked⟩ := by
  cases hr : s.device.refusal? with
  | some f => rw [step_refresh_of_refusal s hr]
  | none =>
    obtain ⟨boot', hk', -, hle⟩ := Device.refusal?_eq_none_iff.1 hr
    obtain rfl := Kernel.answers.inj (hk.symm.trans hk')
    omega

theorem step_updateUptime {millis : Int64} {u : Uptime} (h : Uptime.ofMillis? millis = some u) :
    s.step (.updateUptime millis) =
      ⟨⟨s.service.learn (Saturating.sub s.device.now.millis u.millis), s.device.ticked⟩, .done, [],
        [.clock], []⟩ := by
  simp only [step, h, change, Service.updateUptime, Probe.run_bind, Probe.run_readClock,
    Probe.run_pure, List.append_nil]

/-! ## Server time -/

theorem run_synchronize {server : Int64} (h : 0 < server.toInt) (d : Device) :
    (s.service.synchronize server).run d =
      let o := s.service.synchronizedAt server d.now
      ⟨o, d.ticked, [.clock], if o.applied then [.serverApplied o.service.serverOffset] else []⟩ := by
  cases ha : (s.service.synchronizedAt server d.now).applied <;>
    simp only [Service.synchronize, if_neg (Int.not_le.2 h), Probe.run_bind, Probe.run_readClock, ha,
      reduceIte, Bool.false_eq_true, Probe.run_note, Probe.run_pure, List.append_nil,
      List.nil_append]

theorem step_synchronize {server : Int64} (h : 0 < server.toInt) :
    s.step (.synchronize server) =
      let o := s.service.synchronizedAt server s.device.now
      ⟨⟨o.service, s.device.ticked⟩, .applied o.applied, o.fired, [.clock],
        if o.applied then [.serverApplied o.service.serverOffset] else []⟩ := by
  simp only [step, run_synchronize s h]

/-- The server's time is taken over, and everybody is told. -/
structure TakenOver (server : Int64) (next : Step) : Prop where
  pos : 0 < server.toInt
  due : s.service.due (s.service.measure server s.device.now) = true
  answer : next.answer = .applied true
  fired : next.fired = s.service.listeners
  service : next.session.service = s.service.applied (s.service.measure server s.device.now)

/-- The server's time is ignored: the clock stays as it was, and nobody is told. -/
structure Ignored (server : Int64) (next : Step) : Prop where
  not_due : 0 < server.toInt → s.service.due (s.service.measure server s.device.now) = false
  answer : next.answer = .applied false
  fired : next.fired = []
  service : next.session.service = s.service

theorem takenOver_or_ignored (server : Int64) :
    s.TakenOver server (s.step (.synchronize server)) ∨
      s.Ignored server (s.step (.synchronize server)) := by
  by_cases hpos : 0 < server.toInt
  · rw [step_synchronize s hpos]
    cases hdue : s.service.due (s.service.measure server s.device.now) with
    | false =>
      simp only [Service.synchronizedAt_of_not_due hdue]
      exact .inr ⟨fun _ => hdue, rfl, rfl, rfl⟩
    | true =>
      simp only [Service.synchronizedAt_of_due hdue]
      exact .inl ⟨hpos, hdue, rfl, rfl, rfl⟩
  · simp only [step, Service.synchronize, if_pos (Int.not_lt.1 hpos)]
    exact .inr ⟨fun h => absurd h hpos, rfl, rfl, rfl⟩

theorem takenOver_of_applied {server : Int64}
    (h : (s.step (.synchronize server)).answer = .applied true) :
    s.TakenOver server (s.step (.synchronize server)) := by
  rcases s.takenOver_or_ignored server with htaken | hignored
  · exact htaken
  · rw [hignored.answer] at h
    cases h

theorem ignored_of_not_due {server : Int64}
    (h : s.service.due (s.service.measure server s.device.now) = false) :
    s.Ignored server (s.step (.synchronize server)) := by
  rcases s.takenOver_or_ignored server with htaken | hignored
  · rw [htaken.due] at h
    cases h
  · exact hignored

/-- Whether or not a positive server time is taken over, one has been by then. -/
theorem synchronized_of_synchronize {server : Int64} (h : 0 < server.toInt) :
    (s.step (.synchronize server)).session.service.synchronized = true := by
  rcases s.takenOver_or_ignored server with htaken | hignored
  · rw [htaken.service]
    rfl
  · have hdue := hignored.not_due h
    simp only [Service.due, Bool.or_eq_false_iff, Bool.not_eq_false'] at hdue
    rw [hignored.service]
    exact hdue.1

/-! ## Forward time -/

theorem addForward_nonneg (service : Service) (d : Span) :
    0 ≤ (service.addForward d).forward.toInt := by
  unfold Service.addForward
  dsimp only
  split
  · decide
  · omega

/-! ## Things that happen to the device -/

theorem step_elapse {millis : Int64} {d : Device} (h : s.device.elapse? millis = some d) :
    s.step (.elapse millis) = ⟨⟨s.service, d⟩, .done, [], [], []⟩ := by
  simp only [step, h, happen]

theorem step_setByHand {secs : Int64} {d : Device} (h : s.device.setByHand? secs = some d) :
    s.step (.setByHand secs) = ⟨⟨s.service, d⟩, .done, [], [], []⟩ := by
  simp only [step, h, happen]

/-- After an action, the device's clock reads `t`. -/
theorem after_setNow (a : Action) (t : Instant) : s.after [a, .setNow t] =
    ⟨(s.step a).session.service, { (s.step a).session.device with now := t }⟩ := rfl

/-- A new clock is one that knows no boot time and looks it up. -/
theorem start_eq (limits : Thresholds) (d : Device) :
    (start limits d).session =
      ((⟨.unanchored limits d.now d.ticked.steady, d.ticked⟩ : Session).step .refresh).session := by
  simp only [start, Service.start, Probe.run_bind, Probe.run_readClock, Probe.run_readSteady, step,
    change]

/-- On a settled device that first look-up makes the boot time it finds the anchor. -/
theorem start_of_settled {d : Device} {boot : Int64} (limits : Thresholds) (hd : d.Settled boot) :
    ∃ found : Int64, found.toInt = boot.toInt * 1000 + d.now.phase ∧
      (start limits d).session =
        ⟨{ Service.unanchored limits d.now d.steady with
            anchor := found, boot := found, bootKnown := true }, d⟩ := by
  rw [start_eq, hd.ticked]
  exact step_refresh_of_settled ⟨.unanchored limits d.now d.steady, d⟩ hd

/-! ## All steps -/

theorem change_refreshed (service : Service) (answer : Except Fault Report) :
    service.Change (service.refreshed answer) := by
  cases answer with
  | ok r => exact .learn _
  | error f => exact .none

theorem change_forward (d : Option Span) : s.service.Change (s.forward d).session.service := by
  cases d with
  | none => exact .none
  | some d => exact .addForward d

theorem service_happen (d : Option Device) : (s.happen d).session.service = s.service := by
  cases d <;> rfl

theorem change_synchronize (server : Int64) :
    s.service.Change (s.step (.synchronize server)).session.service := by
  rcases s.takenOver_or_ignored server with htaken | hignored
  · rw [htaken.service]
    exact .takeover server _ htaken.pos htaken.due
  · rw [hignored.service]
    exact .none

theorem change_step (a : Action) : s.service.Change (s.step a).session.service := by
  cases a with
  | refresh =>
    rw [step_refresh]
    exact change_refreshed _ _
  | updateUptime millis =>
    cases hu : Uptime.ofMillis? millis with
    | some u =>
      rw [step_updateUptime s hu]
      exact .learn _
    | none =>
      simp only [step, hu]
      exact .none
  | synchronize server => exact change_synchronize s server
  | listen name => exact .listen name
  | forwardMillis millis => exact change_forward s _
  | forwardParts secs nanos => exact change_forward s _
  | resetForward => exact .resetForward
  | current | uncorrected | remaining | sinceStart => exact .none
  | setNow | setKernel | setTick | elapse | setByHand =>
    simp only [step, service_happen]
    exact .none

/-! ### What a run keeps -/

/-- What every change of the clock keeps, every run keeps. -/
theorem service_after {P : Service → Prop} (hkeep : ∀ {s s' : Service}, s.Change s' → P s → P s')
    (actions : List Action) (h : P s.service) : P (s.after actions).service := by
  induction actions generalizing s with
  | nil => exact h
  | cons a rest ih => exact ih _ (hkeep (change_step s a) h)

theorem lag_after (actions : List Action) : (s.after actions).service.lag = s.service.lag :=
  s.service_after (P := fun t => t.lag = s.service.lag) (fun hc h => hc.lag_eq.trans h) actions rfl

theorem synchronized_after (actions : List Action) (h : s.service.synchronized = true) :
    (s.after actions).service.synchronized = true :=
  s.service_after (P := fun t => t.synchronized = true) Service.Change.synchronized_of actions h

/-- A clock that was made with its first reading at `now`, on a device that was `d` when it then
looked up the boot time. Every other call reads the clock once at most and then asks the kernel once
at most, so that a device that changes in between might as well have changed before. -/
def made (limits : Thresholds) (now : Instant) (started : Nat) (d : Device) : Session :=
  ((⟨.unanchored limits now started, d⟩ : Session).step .refresh).session

theorem start_eq_made (limits : Thresholds) (d : Device) :
    (start limits d).session = made limits d.now d.ticked.steady d.ticked := start_eq limits d

/-- What every change keeps holds of every clock, if it holds of one that knows no boot time yet. -/
theorem service_after_made {P : Service → Prop}
    (hkeep : ∀ {s s' : Service}, s.Change s' → P s → P s') {limits : Thresholds} {now : Instant}
    {started : Nat} (h : P (.unanchored limits now started)) (d : Device) (actions : List Action) :
    P ((made limits now started d).after actions).service := by
  rw [made, ← after_cons]
  exact service_after _ hkeep _ h

/-- A clock has the thresholds that it was made with, and its offset is a span of time. -/
theorem limited_after_made (limits : Thresholds) (now : Instant) (started : Nat) (d : Device)
    (actions : List Action) : ((made limits now started d).after actions).service.Limited limits :=
  service_after_made Service.Change.limited_of (Service.limited_unanchored limits now started) d
    actions

theorem limited_after_start (limits : Thresholds) (d : Device) (actions : List Action) :
    ((start limits d).session.after actions).service.Limited limits := by
  rw [start_eq_made]
  exact limited_after_made limits _ _ _ actions

end Session

end BootClock
