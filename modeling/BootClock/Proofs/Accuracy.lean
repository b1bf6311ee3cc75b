import BootClock.Proofs.Step
/-!
# How far the corrected clock is from the true time

In an attended run the boot time is looked up again after every change by hand, and every server
tells the true time. What carries the run is the true time at which the device was started: nothing
done to the clock changes it, and from the first takeover on `anchor + serverOffset` is near it
(`Anchored`). Errors therefore do not add up: at every later point the corrected time less the
forward time is off by less than the lag threshold and a second (`accurate_after_takeover`).
-/

namespace BootClock

/-! ## What the clock knows of the start -/

namespace Service

/-- How far a takeover may be off: a lead below the lag threshold counts as none. -/
def slack (s : Service) : Int := max (s.lag.toInt - 1) 0

/-- The boot time in use is the one of a kernel that answers `boot`, and less than a second more. -/
def Current (s : Service) (boot : Int64) : Prop :=
  boot.toInt * 1000 ≤ s.boot.toInt ∧ s.boot.toInt < boot.toInt * 1000 + 1000

/-- What holds of a clock on a device that was started when the true time was `start`. -/
structure Anchored (s : Service) (start : Int) : Prop where
  known : s.bootKnown = true
  anchor_nonneg : 0 ≤ s.anchor.toInt
  anchor_lt : s.anchor.toInt < (Instant.lastSecond + 1) * 1000
  offset_gt : -((Instant.lastSecond + 1) * 1000) < s.serverOffset.toInt
  forward_nonneg : 0 ≤ s.forward.toInt
  near : s.synchronized = true →
    start - s.slack ≤ s.anchor.toInt + s.serverOffset.toInt ∧
      s.anchor.toInt + s.serverOffset.toInt ≤ start + s.slack + 999

namespace Anchored

variable {s : Service} {start : Int}

/-- Later boot times leave the anchor where it is. -/
theorem learn (h : s.Anchored start) (boot : Int64) : (s.learn boot).Anchored start := by
  have hanchor := anchor_learn h.known boot
  exact ⟨rfl, hanchor ▸ h.anchor_nonneg, hanchor ▸ h.anchor_lt, h.offset_gt, h.forward_nonneg,
    hanchor ▸ h.near⟩

/-- A takeover at true time `server` sets the anchor to the boot time in use, which is less than a
second after the kernel's. -/
theorem takeover {d : Device} {server boot : Int64} (h : s.Anchored start) (hd : d.Settled boot)
    (hcur : s.Current boot) (hserver : 0 < server.toInt)
    (hstart : start = server.toInt - (d.now.millis.toInt - boot.toInt * 1000)) :
    (s.synchronizedAt server d.now).service.Anchored start := by
  obtain ⟨hge, hlt⟩ := hcur
  have hpos := hd.pos
  have hle := hd.le_now
  have hlast := d.now.le_last
  have hclock := d.now.toInt_millis_eq_phase
  have hphase := d.now.phase_nonneg
  have hphase' := hd.ordinary.phase_lt
  have hlead : Fits (server.toInt - d.now.millis.toInt) := by
    have hfits := fits_toInt server
    have hfits' := fits_toInt d.now.millis
    unfold Fits at *
    omega
  have hmeasure := toInt_measure (s := s) hlead
  cases hdue : s.due (s.measure server d.now) with
  | false =>
    rw [synchronizedAt_of_not_due hdue]
    exact h
  | true =>
    rw [synchronizedAt_of_due hdue]
    refine ⟨h.known, ?_, ?_, ?_, h.forward_nonneg, fun _ => ?_⟩ <;>
      simp only [applied, slack, hmeasure]
    · omega
    · omega
    · split <;> omega
    · split <;> omega

end Anchored

end Service

/-! ## Attended runs -/

namespace Session

/-- A call that reads the clock, looks up the boot time, registers a listener or adds time. -/
def Action.isPlain : Action → Bool
  | .refresh | .current | .uncorrected | .remaining _ | .sinceStart => true
  | .listen _ | .forwardMillis _ | .forwardParts .. | .resetForward => true
  | _ => false

/-- The run leads from a session at the first true time to the second true time. -/
inductive Attended : Session → Int → List Action → Int → Prop where
  | nil {s : Session} {t : Int} : Attended s t [] t
  | plain {s : Session} {t t' : Int} {a : Action} {rest : List Action} :
      a.isPlain = true → Attended (s.step a).session t rest t' → Attended s t (a :: rest) t'
  | elapse {s : Session} {t t' : Int} {millis : Int64} {rest : List Action} :
      0 ≤ millis.toInt → (s.device.elapse? millis).isSome →
      Attended (s.step (.elapse millis)).session (t + millis.toInt) rest t' →
      Attended s t (.elapse millis :: rest) t'
  /-- A change by hand leaves the kernel a boot time, and a look-up follows it at once. -/
  | setByHand {s : Session} {t t' : Int} {boot secs : Int64} {rest : List Action} :
      s.device.kernel = .answers boot → 1 ≤ boot.toInt + secs.toInt →
      (s.device.setByHand? secs).isSome →
      Attended ((s.step (.setByHand secs)).session.step .refresh).session t rest t' →
      Attended s t (.setByHand secs :: .refresh :: rest) t'
  | synchronize {s : Session} {t t' : Int} {server : Int64} {rest : List Action} :
      server.toInt = t → 0 < t → Attended (s.step (.synchronize server)).session t rest t' →
      Attended s t (.synchronize server :: rest) t'

/-- At true time `t`, the clock on a device that was started at `boot`. -/
structure Aligned (s : Session) (t : Int) (boot : Int64) : Prop where
  settled : s.device.Settled boot
  current : s.service.Current boot
  anchored : s.service.Anchored (t - (s.device.now.millis.toInt - boot.toInt * 1000))

/-- A plain call other than a look-up changes the forward time and the listeners at most. -/
theorem step_plain {s : Session} {a : Action} (hticked : s.device.ticked = s.device)
    (hf : 0 ≤ s.service.forward.toInt) (ha : a.isPlain = true) (hne : a ≠ .refresh) :
    ∃ (forward : Int64) (listeners : List String), 0 ≤ forward.toInt ∧
      (s.step a).session = ⟨{ s.service with forward, listeners }, s.device⟩ := by
  have hadd : ∀ d : Option Span, ∃ (forward : Int64) (listeners : List String),
      0 ≤ forward.toInt ∧
        (s.forward d).session = ⟨{ s.service with forward, listeners }, s.device⟩
    | none => ⟨_, _, hf, rfl⟩
    | some d => ⟨_, _, addForward_nonneg s.service d, rfl⟩
  cases a with
  | refresh => exact absurd rfl hne
  | current => exact ⟨_, _, hf, by rw [step_current, hticked]⟩
  | uncorrected => exact ⟨_, _, hf, by rw [step_uncorrected, hticked]⟩
  | remaining deadline => exact ⟨_, _, hf, by rw [step_remaining, hticked]⟩
  | sinceStart => exact ⟨_, _, hf, rfl⟩
  | listen name => exact ⟨_, _, hf, rfl⟩
  | forwardMillis millis => exact hadd _
  | forwardParts secs nanos => exact hadd _
  | resetForward => exact ⟨0, _, by decide, rfl⟩
  | _ => cases ha

namespace Aligned

variable {s : Session} {t : Int} {boot : Int64}

theorem refresh (hd : s.device.Settled boot)
    (ha : s.service.Anchored (t - (s.device.now.millis.toInt - boot.toInt * 1000))) :
    (s.step .refresh).session.Aligned t boot := by
  obtain ⟨found, hfound, hstep⟩ := step_refresh_of_settled s hd
  have hphase := s.device.now.phase_nonneg
  have hphase' := hd.ordinary.phase_lt
  rw [hstep]
  exact ⟨hd, ⟨by simp only [Service.learn]; omega, by simp only [Service.learn]; omega⟩,
    ha.learn found⟩

theorem plain {a : Action} (h : s.Aligned t boot) (ha : a.isPlain = true) :
    (s.step a).session.Aligned t boot := by
  by_cases hne : a = .refresh
  · subst hne
    exact refresh h.settled h.anchored
  · obtain ⟨forward, listeners, hf, hstep⟩ :=
      step_plain h.settled.ticked h.anchored.forward_nonneg ha hne
    rw [hstep]
    exact ⟨h.settled, h.current, { h.anchored with forward_nonneg := hf }⟩

theorem elapse {millis : Int64} (h : s.Aligned t boot) (hpos : 0 ≤ millis.toInt)
    (he : (s.device.elapse? millis).isSome) :
    (s.step (.elapse millis)).session.Aligned (t + millis.toInt) boot := by
  obtain ⟨d, hd⟩ := Option.isSome_iff_exists.1 he
  obtain ⟨hsettled, hclock⟩ := h.settled.elapse hpos hd
  rw [step_elapse s hd]
  refine ⟨hsettled, h.current, ?_⟩
  -- Device and true time move on together, so the start stays where it was.
  have hstart : t + millis.toInt - (d.now.millis.toInt - boot.toInt * 1000) =
      t - (s.device.now.millis.toInt - boot.toInt * 1000) := by omega
  rw [hstart]
  exact h.anchored

theorem setByHand {secs : Int64} (h : s.Aligned t boot) (hpos : 1 ≤ boot.toInt + secs.toInt)
    (he : (s.device.setByHand? secs).isSome) :
    ∃ boot', ((s.step (.setByHand secs)).session.step .refresh).session.Aligned t boot' := by
  obtain ⟨d, hd⟩ := Option.isSome_iff_exists.1 he
  obtain ⟨boot', hsettled, hboot, hclock⟩ := h.settled.setByHand hpos hd
  refine ⟨boot', refresh ?_ ?_⟩ <;> rw [step_setByHand s hd]
  · exact hsettled
  · -- Clock and boot time move together, so the start stays where it was.
    have hstart : t - (d.now.millis.toInt - boot'.toInt * 1000) =
        t - (s.device.now.millis.toInt - boot.toInt * 1000) := by omega
    rw [hstart]
    exact h.anchored

theorem synchronize {server : Int64} (h : s.Aligned t boot) (ht : server.toInt = t) (hpos : 0 < t) :
    (s.step (.synchronize server)).session.Aligned t boot := by
  subst ht
  rw [step_synchronize s hpos, h.settled.ticked]
  refine ⟨h.settled, ?_, h.anchored.takeover h.settled h.current hpos rfl⟩
  unfold Service.Current
  rw [Service.boot_synchronizedAt]
  exact h.current

end Aligned

/-- Whatever an attended run does, it ends with the clock aligned to the true time. -/
theorem Attended.aligned {s : Session} {t t' : Int} {actions : List Action}
    (h : Attended s t actions t') :
    ∀ {boot : Int64}, s.Aligned t boot → ∃ boot', (s.after actions).Aligned t' boot' := by
  induction h with
  | nil => exact fun hs => ⟨_, hs⟩
  | plain ha _ ih => exact fun hs => ih (hs.plain ha)
  | elapse hpos he _ ih => exact fun hs => ih (hs.elapse hpos he)
  | setByHand hk hpos he _ ih =>
    intro boot hs
    obtain rfl : boot = _ := Kernel.answers.inj (hs.settled.answers.symm.trans hk)
    obtain ⟨boot', hs'⟩ := hs.setByHand hpos he
    exact ih hs'
  | synchronize ht hpos _ ih => exact fun hs => ih (hs.synchronize ht hpos)

/-- A clock that is made on a settled device has the kernel's boot time for its anchor. -/
theorem aligned_start {d : Device} {boot : Int64} (limits : Thresholds) (t : Int)
    (hd : d.Settled boot) : (start limits d).session.Aligned t boot := by
  obtain ⟨found, hfound, hstart⟩ := start_of_settled limits hd
  have hpos := hd.pos
  have hle := hd.le_now
  have hlast := d.now.le_last
  have hphase := d.now.phase_nonneg
  have hphase' := hd.ordinary.phase_lt
  rw [hstart]
  refine ⟨hd, ⟨?_, ?_⟩, ⟨rfl, ?_, ?_, ?_, ?_, ?_⟩⟩ <;>
    simp only [Service.unanchored, Bool.false_eq_true, false_implies]
  · omega
  · omega
  · omega
  · omega
  · decide
  · decide

/-- The first true time of a run is taken over. -/
theorem Attended.synchronized {s : Session} {t t' : Int} {actions : List Action}
    (h : Attended s t actions t') (hsync : ∃ server, .synchronize server ∈ actions) :
    (s.after actions).service.synchronized = true := by
  obtain ⟨server, hmem⟩ := hsync
  induction h with
  | nil => cases hmem
  | plain ha _ ih =>
    rcases List.mem_cons.1 hmem with rfl | hmem
    · cases ha
    · exact ih hmem
  | elapse _ _ _ ih => exact ih (by simpa using hmem)
  | setByHand _ _ _ _ ih => exact ih (by simpa using hmem)
  | synchronize ht hpos _ _ =>
    rw [after_cons]
    exact synchronized_after _ _ (synchronized_of_synchronize _ (ht ▸ hpos))

/-! ## Accuracy -/

namespace Aligned

variable {s : Session} {t : Int} {boot : Int64}

/-- A corrected time that is an instant leaves no partial sum of the correction room to overflow:
anchor and boot time are dates, and a lead is no further back than the clock. -/
theorem sumsFit (h : s.Aligned t boot) (hr : s.service.Reaches s.device.now) :
    s.service.SumsFit := by
  obtain ⟨hd, ⟨hge, hlt⟩, ha⟩ := h
  have hpos := hd.pos
  have hle := hd.le_now
  have hlast := s.device.now.le_last
  have hclock := s.device.now.toInt_millis_eq_phase
  have hphase := s.device.now.phase_nonneg
  have h1 := ha.anchor_nonneg
  have h2 := ha.anchor_lt
  have h3 := ha.offset_gt
  have h4 := ha.forward_nonneg
  have hexact : s.service.exact = s.service.anchor.toInt - s.service.boot.toInt +
      s.service.serverOffset.toInt + s.service.forward.toInt := rfl
  unfold Service.Reaches Instant.firstSecond at hr
  unfold Instant.lastSecond at *
  refine ⟨⟨?_, ?_⟩, ⟨?_, ?_⟩, ⟨?_, ?_⟩⟩ <;> omega

theorem accurate (h : s.Aligned t boot) (hsync : s.service.synchronized = true)
    (hr : s.service.Reaches s.device.now) :
    ∃ u, s.service.corrected s.device.now = .ok u ∧
      ((u.millis.toInt - s.service.forward.toInt - t).natAbs : Int) ≤ s.service.slack + 999 := by
  obtain ⟨u, hu, -, htotal⟩ := Service.corrected_of_reaches (h.sumsFit hr) h.settled.ordinary hr
  have hmillis := Instant.toInt_millis_of_total htotal
  obtain ⟨hge, hlt⟩ := h.current
  obtain ⟨hlow, hhigh⟩ := h.anchored.near hsync
  refine ⟨u, hu, ?_⟩
  unfold Service.exact at hmillis
  omega

end Aligned

/-- **At every point of an attended run after the first server's time** the clock answers, and its
answer less the forward time is off the true time by less than the lag threshold and a second. -/
theorem accurate_after_takeover {limits : Thresholds} {d : Device} {boot : Int64} {t t' : Int}
    {actions : List Action} (hd : d.Settled boot)
    (hrun : Attended (start limits d).session t actions t')
    (hsync : ∃ server, .synchronize server ∈ actions)
    (hreach : ((start limits d).session.after actions).service.Reaches
      ((start limits d).session.after actions).device.now) :
    let s := (start limits d).session.after actions
    ∃ u, (s.step .current).answer = .time (.ok u) ∧
      ((u.millis.toInt - s.service.forward.toInt - t').natAbs : Int) ≤
        max ((Service.millisOf limits.lag).toInt - 1) 0 + 999 := by
  obtain ⟨boot', haligned⟩ := hrun.aligned (aligned_start limits t hd)
  obtain ⟨u, hu, hnear⟩ := haligned.accurate (hrun.synchronized hsync) hreach
  have hlag : ((start limits d).session.after actions).service.lag = Service.millisOf limits.lag := by
    rw [lag_after, start_eq, (change_step _ .refresh).lag_eq]
    rfl
  refine ⟨u, ?_, ?_⟩
  · rw [step_current, hu]
  · rw [Service.slack, hlag] at hnear
    exact hnear

/-- The clock is 65 minutes slow, and is set an hour forward before the first server's time. -/
def lateTakeover : List Action :=
  [.elapse 700, .setByHand 3600, .refresh, .synchronize 1004000700, .forwardMillis 5000, .elapse 450,
    .refresh, .current]

theorem attended_lateTakeover :
    Attended (start {} .sample).session 1004000000 lateTakeover 1004001150 := by
  have hkernel : (((start {} .sample).session.step (.elapse 700)).session).device.kernel =
      .answers 1000000 := by decide +kernel
  refine .elapse (by decide) (by decide +kernel) ?_
  refine .setByHand hkernel (by decide) (by decide +kernel) ?_
  refine .synchronize (by decide) (by decide) ?_
  refine .plain rfl (.elapse (by decide) (by decide +kernel) (.plain rfl (.plain rfl ?_)))
  exact .nil

theorem accurate_lateTakeover :
    let s := (start {} .sample).session.after lateTakeover
    s.service.Reaches s.device.now ∧ ∃ u, (s.step .current).answer = .time (.ok u) ∧
      ((u.millis.toInt - s.service.forward.toInt - 1004001150).natAbs : Int) ≤ 180998 := by
  have hreach : ((start {} .sample).session.after lateTakeover).service.Reaches
      ((start {} .sample).session.after lateTakeover).device.now := by decide +kernel
  have hsync : ∃ server, .synchronize server ∈ lateTakeover := ⟨1004000700, by decide⟩
  exact ⟨hreach, accurate_after_takeover Device.settled_sample attended_lateTakeover hsync hreach⟩

end Session

end BootClock
