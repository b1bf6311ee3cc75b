import BootClock.Proofs.Step
/-!
# The first boot time

A new clock takes its first reading for a boot time until it learns one. As long as it has learnt
none, the anchor is whatever stands in for the boot time, also after a takeover, which makes it so
(`Service.Unanchored`). The boot time learnt first becomes the anchor, so the difference of the two
is nothing before and after, and the clock is not moved; from then on only a takeover moves the
anchor (`current_of_first_boot`).
-/

namespace BootClock

/-- The kernel has a boot time that is positive and not ahead of the clock. -/
def Device.tellsBoot (d : Device) : Bool :=
  match d.kernel with
  | .answers boot => decide (1 ≤ boot.toInt ∧ boot.toInt ≤ d.now.secs)
  | .fails _ | .unsupported => false

/-- These are the devices at which a look-up succeeds. -/
theorem Device.tellsBoot_iff {d : Device} :
    d.tellsBoot = true ↔ ∃ r, (Query.report.run d).value = .ok r := by
  rw [Query.report_ok_iff, tellsBoot]
  cases d.kernel with
  | answers boot => simp only [decide_eq_true_eq, Kernel.answers.injEq, exists_eq_left']
  | fails cause => simp only [Bool.false_eq_true, reduceCtorEq, false_and, exists_false]
  | unsupported => simp only [Bool.false_eq_true, reduceCtorEq, false_and, exists_false]

/-- No boot time was learnt yet, and the anchor is what stands in for one. -/
structure Service.Unanchored (s : Service) : Prop where
  unknown : s.bootKnown = false
  anchor : s.anchor = s.boot

namespace Session

variable {service : Service} {s : Session} {a : Action}

/-- The action supplies a boot time: a look-up that succeeds, or an uptime. -/
def supplies (s : Session) : Action → Bool
  | .refresh => s.device.tellsBoot
  | .updateUptime millis => decide (0 ≤ millis.toInt)
  | _ => false

/-- Some action of the run supplies a boot time. -/
def supplied (s : Session) : List Action → Bool
  | [] => false
  | a :: rest => s.supplies a || (s.step a).session.supplied rest

/-- What a step does to the boot times: one is learnt, a server's time is taken over, or they stay
as they were. -/
inductive BootTimes (s : Session) (a : Action) (next : Step) : Prop where
  | learnt (boot : Int64) (supplies : s.supplies a = true)
      (service : next.session.service = s.service.learn boot)
  | takenOver (server : Int64) (action : a = .synchronize server) (taken : s.TakenOver server next)
  | kept (supplies : s.supplies a = false)
      (known : next.session.service.bootKnown = s.service.bootKnown)
      (anchor : next.session.service.anchor = s.service.anchor)
      (boot : next.session.service.boot = s.service.boot)

theorem bootTimes_refresh (s : Session) : s.BootTimes .refresh (s.step .refresh) := by
  have hstep := s.step_refresh
  cases hr : (Query.report.run s.device).value with
  | ok r =>
    rw [hr] at hstep
    exact .learnt (Service.bootOf r) (Device.tellsBoot_iff.2 ⟨r, hr⟩) (by rw [hstep]; rfl)
  | error f =>
    have hnot : s.device.tellsBoot ≠ true := fun htells => by
      obtain ⟨r, hr'⟩ := Device.tellsBoot_iff.1 htells
      cases hr.symm.trans hr'
    rw [hr] at hstep
    refine .kept (Bool.eq_false_iff.2 hnot) ?_ ?_ ?_ <;> rw [hstep] <;> rfl

theorem bootTimes_updateUptime (s : Session) (millis : Int64) :
    s.BootTimes (.updateUptime millis) (s.step (.updateUptime millis)) := by
  cases hu : Uptime.ofMillis? millis with
  | some u =>
    obtain rfl := Uptime.ofMillis?_eq_some_iff.1 hu
    exact .learnt _ (decide_eq_true u.nonneg) (by rw [step_updateUptime s hu])
  | none =>
    have hneg : ¬ 0 ≤ millis.toInt := fun hle => by
      rw [Uptime.ofMillis?, dif_pos hle] at hu
      cases hu
    refine .kept (decide_eq_false hneg) ?_ ?_ ?_ <;> simp only [step, hu]

theorem bootTimes_synchronize (s : Session) (server : Int64) :
    s.BootTimes (.synchronize server) (s.step (.synchronize server)) := by
  rcases s.takenOver_or_ignored server with htaken | hignored
  · exact .takenOver server rfl htaken
  · refine .kept rfl ?_ ?_ ?_ <;> rw [hignored.service]

theorem bootTimes_forward (ha : s.supplies a = false) (d : Option Span) :
    s.BootTimes a (s.forward d) := by
  cases d with
  | none => exact .kept ha rfl rfl rfl
  | some d => exact .kept ha rfl rfl rfl

theorem bootTimes_step (s : Session) (a : Action) : s.BootTimes a (s.step a) := by
  cases a with
  | refresh => exact bootTimes_refresh s
  | updateUptime millis => exact bootTimes_updateUptime s millis
  | synchronize server => exact bootTimes_synchronize s server
  | current | uncorrected | remaining | sinceStart | listen | resetForward =>
    exact .kept rfl rfl rfl rfl
  | forwardMillis millis => exact bootTimes_forward rfl _
  | forwardParts secs nanos => exact bootTimes_forward rfl _
  | setNow | setKernel | setTick | elapse | setByHand =>
    refine .kept rfl ?_ ?_ ?_ <;> simp only [step, service_happen]

/-- As long as no boot time is supplied, the anchor stays what stands in for one. -/
theorem unanchored_step (h : s.service.Unanchored) (ha : s.supplies a = false) :
    (s.step a).session.service.Unanchored := by
  cases bootTimes_step s a with
  | learnt boot supplies => cases ha.symm.trans supplies
  | takenOver server action taken =>
    rw [taken.service]
    exact ⟨h.unknown, rfl⟩
  | kept supplies known anchor boot => exact ⟨known.trans h.unknown, by rw [anchor, boot, h.anchor]⟩

theorem unanchored_after (actions : List Action) (h : s.service.Unanchored)
    (hnone : s.supplied actions = false) : (s.after actions).service.Unanchored := by
  induction actions generalizing s with
  | nil => exact h
  | cons a rest ih =>
    rw [supplied, Bool.or_eq_false_iff] at hnone
    exact ih (unanchored_step h hnone.1) hnone.2

/-- The boot time that is learnt first becomes the anchor, so both before and after, the correction
starts from a boot time less itself. -/
theorem correction_learn (h : service.Unanchored) (boot : Int64) :
    (service.learn boot).correction = service.correction := by
  have hanchor : (service.learn boot).anchor = boot := by
    rw [Service.learn, h.unknown]
    rfl
  have hnone : ∀ m : Int64, Saturating.sub m m = 0 := fun m => by
    rw [Saturating.sub, Int.sub_self]
    rfl
  unfold Service.correction
  rw [hanchor, h.anchor, show (service.learn boot).boot = boot from rfl, hnone, hnone]
  rfl

/-- What supplies the first boot time leaves the corrected time at every reading as it was. -/
theorem corrected_of_supplies (h : s.service.Unanchored) (ha : s.supplies a = true) :
    (s.step a).session.service.bootKnown = true ∧
      ∀ t, (s.step a).session.service.corrected t = s.service.corrected t := by
  cases bootTimes_step s a with
  | learnt boot _ service =>
    rw [service]
    refine ⟨rfl, fun t => ?_⟩
    unfold Service.corrected
    rw [correction_learn h]
  | takenOver server action _ =>
    subst action
    cases ha
  | kept supplies => cases ha.symm.trans supplies

/-- Once a boot time is known, a step that moves the anchor takes a server's time over. -/
theorem takenOver_of_anchor_ne (hknown : s.service.bootKnown = true)
    (hne : (s.step a).session.service.anchor ≠ s.service.anchor) :
    ∃ server, a = .synchronize server ∧ (s.step a).answer = .applied true := by
  cases bootTimes_step s a with
  | learnt boot _ service =>
    rw [service, Service.anchor_learn hknown] at hne
    exact absurd rfl hne
  | takenOver server action taken => exact ⟨server, action, taken.answer⟩
  | kept _ _ anchor => exact absurd anchor hne

theorem bootKnown_after (actions : List Action) (h : s.service.bootKnown = true) :
    (s.after actions).service.bootKnown = true :=
  s.service_after (P := fun t => t.bootKnown = true) Service.Change.bootKnown_of actions h

/-- **The first boot time never moves the clock.** In every run of a new clock, its own first look-up
being the first action, in which nothing has supplied a boot time yet, the anchor is the boot time in
use; the action that supplies the first one leaves what the clock tells at any reading as it was; and
after that, a step that moves the anchor takes a server's time over. -/
theorem current_of_first_boot (limits : Thresholds) (now : Instant) (started : Nat) (d : Device)
    (before : List Action) :
    let new : Session := ⟨.unanchored limits now started, d⟩
    let s := new.after before
    new.supplied before = false →
      s.service.anchor = s.service.boot ∧
      ∀ a, s.supplies a = true →
        (∀ t, ((s.after [a, .setNow t]).step .current).answer =
          ((s.after [.setNow t]).step .current).answer) ∧
        ∀ rest b,
          let s' := s.after (a :: rest)
          (s'.step b).session.service.anchor ≠ s'.service.anchor →
            ∃ server, b = .synchronize server ∧ (s'.step b).answer = .applied true := by
  intro new s hnone
  have h : s.service.Unanchored := unanchored_after before ⟨rfl, rfl⟩ hnone
  refine ⟨h.anchor, fun a ha => ?_⟩
  obtain ⟨hknown, hcorrected⟩ := corrected_of_supplies h ha
  refine ⟨fun t => ?_, fun rest b => ?_⟩
  · rw [after_setNow, step_current, hcorrected]
    rfl
  · exact takenOver_of_anchor_ne (bootKnown_after rest hknown)

/-- A clock whose kernel does not answer at first, with a server's time taken over and a device set
by hand in the meantime. -/
def unanswered : List Action :=
  [.refresh, .synchronize 1000500250, .forwardMillis 5000, .setByHand 3600, .refresh,
    .setKernel (.answers 1000000)]

/-- Neither a look-up nor an uptime moves it, and the next takeover moves the anchor. -/
theorem current_of_first_boot_unanswered :
    let d : Device := { Device.sample with kernel := .unsupported }
    let s := (⟨.unanchored {} d.now 0, d⟩ : Session).after unanswered
    s.service.serverOffset.toInt = 400000 ∧ s.service.anchor = s.service.boot ∧
      (∀ t, ((s.after [.refresh, .setNow t]).step .current).answer =
        ((s.after [.setNow t]).step .current).answer) ∧
      (∀ t, ((s.after [.updateUptime 100000, .setNow t]).step .current).answer =
        ((s.after [.setNow t]).step .current).answer) ∧
      ((s.after [.refresh, .setByHand 60, .refresh]).step (.synchronize 990000250)).answer =
        .applied true := by
  intro d s
  obtain ⟨hanchor, hfirst⟩ := current_of_first_boot {} d.now 0 d unanswered (by decide +kernel)
  obtain ⟨hrefresh, hafter⟩ := hfirst .refresh (by decide +kernel)
  obtain ⟨huptime, -⟩ := hfirst (.updateUptime 100000) (by decide +kernel)
  obtain ⟨_, -, hanswer⟩ :=
    hafter [.setByHand 60, .refresh] (.synchronize 990000250) (by decide +kernel)
  exact ⟨by decide +kernel, hanchor, hrefresh, huptime, hanswer⟩

end Session

end BootClock
