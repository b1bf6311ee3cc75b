import BootClock.Proofs.Step
/-!
# Changes of the clock by hand

A change by hand moves the clock and the kernel's boot time by the same whole seconds. Once the boot
time is looked up again the two moves cancel in every answer: a run after the change answers what the
same run answers without it (`answers_after_setByHand`). The two runs go through different clock
readings and different boot times, and stay a fixed number of seconds apart (`Shifted`).
-/

namespace BootClock

/-! ## Devices so many seconds apart -/

/-- The second device is the first with clock and kernel set forward by so many seconds. -/
structure Device.Shifted (secs : Int) (d d' : Device) : Prop where
  clock : d'.now.total = d.now.total + secs * 1000000000
  ordinary : d.now.Ordinary
  ordinary' : d'.now.Ordinary
  tick : d'.tick = d.tick
  kernel : ∃ boot boot' : Int64, d.kernel = .answers boot ∧ d'.kernel = .answers boot' ∧
    1 ≤ boot.toInt ∧ 1 ≤ boot'.toInt ∧ boot'.toInt = boot.toInt + secs

namespace Device.Shifted

variable {secs : Int} {d d' e e' : Device}

theorem secs_eq (h : Shifted secs d d') : d'.now.secs = d.now.secs + secs := by
  have hclock := h.clock
  have hd := h.ordinary
  have hd' := h.ordinary'
  unfold Instant.total Instant.Ordinary at *
  omega

theorem phase_eq (h : Shifted secs d d') : d'.now.phase = d.now.phase := by
  have hclock := h.clock
  have hd := h.ordinary
  have hd' := h.ordinary'
  unfold Instant.total Instant.Ordinary Instant.phase at *
  omega

theorem millis_eq (h : Shifted secs d d') :
    d'.now.millis.toInt = d.now.millis.toInt + secs * 1000 := by
  rw [Instant.toInt_millis_eq_phase, Instant.toInt_millis_eq_phase, h.secs_eq, h.phase_eq]
  omega

theorem elapse {millis : Int64} (h : Shifted secs d d') (he : d.elapse? millis = some e)
    (he' : d'.elapse? millis = some e') : Shifted secs e e' := by
  obtain ⟨heq, htotal, hord⟩ := elapse?_eq_some h.ordinary he
  obtain ⟨heq', htotal', hord'⟩ := elapse?_eq_some h.ordinary' he'
  have hclock := h.clock
  refine ⟨by omega, hord, hord', ?_, ?_⟩ <;> rw [heq, heq']
  · exact h.tick
  · exact h.kernel

/-- A change by hand of a device whose kernel has a boot time, not ahead of the clock. -/
theorem of_setByHand {boot secs : Int64} (hord : d.now.Ordinary) (hk : d.kernel = .answers boot)
    (hpos : 1 ≤ boot.toInt) (hle : boot.toInt ≤ d.now.secs) (hpos' : 1 ≤ boot.toInt + secs.toInt)
    (hset : d.setByHand? secs = some e) : Shifted secs.toInt d e := by
  obtain ⟨boot', heq, hboot, -, htotal, hord'⟩ := setByHand?_eq_some hord hk hle hpos' hset
  exact ⟨htotal, hord, hord', by rw [heq], boot, boot', hk, by rw [heq], hpos, by omega, hboot⟩

/-- Reading both clocks keeps the devices apart by as much, unless one stands still at the end. -/
theorem ticked (h : Shifted secs d d') (hd : (d.elapse? d.tick).isSome)
    (hd' : (d'.elapse? d'.tick).isSome) : Shifted secs d.ticked d'.ticked := by
  obtain ⟨e, he⟩ := Option.isSome_iff_exists.1 hd
  obtain ⟨e', he'⟩ := Option.isSome_iff_exists.1 hd'
  simp only [Device.ticked, he, he', Option.getD_some]
  exact h.elapse he (h.tick ▸ he')

end Device.Shifted

/-! ## What a run asks for -/

namespace Session

/-- A call that takes no server's time and makes no use of the steady clock, or time that passes. -/
def Action.isLocal : Action → Bool
  | .refresh | .updateUptime _ | .current | .remaining _ | .elapse _ => true
  | .listen _ | .forwardMillis _ | .forwardParts .. | .resetForward => true
  | _ => false

/-- The clock stays between the first and the last instant, and no sum leaves the 64-bit counts. -/
def Admits (s : Session) : Action → Prop
  | .elapse millis => (s.device.elapse? millis).isSome
  | .refresh => (s.device.elapse? s.device.tick).isSome
  | .updateUptime millis =>
    (s.device.elapse? s.device.tick).isSome ∧ Fits (s.device.now.millis.toInt - millis.toInt)
  | .current | .remaining _ =>
    (s.device.elapse? s.device.tick).isSome ∧ s.service.SumsFit ∧ s.service.Reaches s.device.now
  | _ => True

instance (s : Session) : (a : Action) → Decidable (s.Admits a)
  | .elapse _ | .refresh => inferInstanceAs (Decidable (_ = true))
  | .updateUptime _ | .current | .remaining _ => inferInstanceAs (Decidable (_ ∧ _))
  | .uncorrected | .synchronize _ | .listen _ | .forwardMillis _ | .forwardParts ..
  | .resetForward | .sinceStart | .setNow _ | .setKernel _ | .setTick _ | .setByHand _ =>
    isTrue trivial

/-- Every step of the run stays in range. -/
def AdmitsAll : Session → List Action → Prop
  | _, [] => True
  | s, a :: rest => s.Admits a ∧ AdmitsAll (s.step a).session rest

instance decidableAdmitsAll : (s : Session) → (actions : List Action) →
    Decidable (s.AdmitsAll actions)
  | _, [] => inferInstanceAs (Decidable True)
  | s, a :: rest =>
    have := decidableAdmitsAll (s.step a).session rest
    inferInstanceAs (Decidable (_ ∧ _))

/-! ## Sessions so many seconds apart -/

/-- The second session is the first after a change by hand of so many seconds that both clocks have
noticed: they differ in the latest boot time and in nothing else. -/
structure Shifted (secs : Int) (s s' : Session) : Prop where
  device : s.device.Shifted secs s'.device
  known : s.service.bootKnown = true
  service : s'.service = { s.service with boot := s'.service.boot }
  boot : s'.service.boot.toInt = s.service.boot.toInt + secs * 1000

namespace Shifted

variable {secs : Int} {s s' : Session}

theorem exact_eq (h : Shifted secs s s') : s'.service.exact = s.service.exact - secs * 1000 := by
  have hanchor := congrArg Service.anchor h.service
  have hoffset := congrArg Service.serverOffset h.service
  have hforward := congrArg Service.forward h.service
  have hboot := h.boot
  dsimp only at hanchor hoffset hforward
  unfold Service.exact
  rw [hanchor, hoffset, hforward, hboot]
  omega

/-- The later clock reading and the later boot time cancel. -/
theorem corrected_eq (h : Shifted secs s s') (hs : s.service.SumsFit) (hs' : s'.service.SumsFit)
    (hr : s.service.Reaches s.device.now) (hr' : s'.service.Reaches s'.device.now) :
    s'.service.corrected s'.device.now = s.service.corrected s.device.now := by
  obtain ⟨u, hu, hord, htotal⟩ := Service.corrected_of_reaches hs h.device.ordinary hr
  obtain ⟨u', hu', hord', htotal'⟩ := Service.corrected_of_reaches hs' h.device.ordinary' hr'
  have hclock := h.device.clock
  rw [h.exact_eq] at htotal'
  rw [hu, hu', hord'.ext hord (by omega)]

/-- A reading keeps the sessions apart by as much. -/
theorem ticked (h : Shifted secs s s') (hd : (s.device.elapse? s.device.tick).isSome)
    (hd' : (s'.device.elapse? s'.device.tick).isSome) :
    Shifted secs ⟨s.service, s.device.ticked⟩ ⟨s'.service, s'.device.ticked⟩ :=
  ⟨h.device.ticked hd hd', h.known, h.service, h.boot⟩

/-- Boot times that are as far apart as the devices are taken note of alike. -/
theorem learn {d d' : Device} (hknown : s.service.bootKnown = true)
    (hservice : s'.service = { s.service with boot := s'.service.boot })
    (hdevice : d.Shifted secs d') {boot boot' : Int64}
    (hboot : boot'.toInt = boot.toInt + secs * 1000) :
    Shifted secs ⟨s.service.learn boot, d⟩ ⟨s'.service.learn boot', d'⟩ := by
  refine ⟨hdevice, rfl, ?_, hboot⟩
  rw [hservice]
  simp only [Service.learn, hknown, if_true]

/-- A change of the clock that the latest boot time has no part in. -/
theorem adjust (h : Shifted secs s s') (f : Service → Service)
    (hf : ∀ (service : Service) (boot : Int64), f { service with boot } = { f service with boot })
    (hknown : (f s.service).bootKnown = s.service.bootKnown) :
    Shifted secs ⟨f s.service, s.device⟩ ⟨f s'.service, s'.device⟩ := by
  have hboot : ∀ service : Service, (f service).boot = service.boot := by
    intro service
    have heq := congrArg Service.boot (hf service service.boot)
    exact heq
  refine ⟨h.device, hknown.trans h.known, ?_, ?_⟩
  · dsimp only
    rw [hboot, ← hf, ← h.service]
  · dsimp only
    rw [hboot, hboot, h.boot]

theorem forward (h : Shifted secs s s') (d : Option Span) :
    (s'.forward d).answer = (s.forward d).answer ∧
      Shifted secs (s.forward d).session (s'.forward d).session := by
  cases d with
  | none => exact ⟨rfl, h⟩
  | some d => exact ⟨rfl, h.adjust (·.addForward d) (fun _ _ => rfl) rfl⟩

/-- The kernel is ahead of the one clock exactly if it is ahead of the other. -/
theorem refresh (h : Shifted secs s s') (hd : (s.device.elapse? s.device.tick).isSome)
    (hd' : (s'.device.elapse? s'.device.tick).isSome) :
    Shifted secs (s.step .refresh).session (s'.step .refresh).session := by
  obtain ⟨boot, boot', hk, hk', hpos, hpos', hboot⟩ := h.device.kernel
  have hsecs := h.device.secs_eq
  by_cases hle : boot.toInt ≤ s.device.now.secs
  · obtain ⟨found, hfound, hstep⟩ := step_refresh_of_boot s hk hpos hle
    obtain ⟨found', hfound', hstep'⟩ := step_refresh_of_boot s' hk' hpos' (by omega)
    have hphase := h.device.phase_eq
    rw [hstep, hstep']
    exact learn h.known h.service (h.device.ticked hd hd') (by omega)
  · rw [step_refresh_of_ahead s hk (by omega), step_refresh_of_ahead s' hk' (by omega)]
    exact h.ticked hd hd'

theorem updateUptime (h : Shifted secs s s') {millis : Int64}
    (hs : s.Admits (.updateUptime millis)) (hs' : s'.Admits (.updateUptime millis)) :
    (s'.step (.updateUptime millis)).answer = (s.step (.updateUptime millis)).answer ∧
      Shifted secs (s.step (.updateUptime millis)).session
        (s'.step (.updateUptime millis)).session := by
  cases hu : Uptime.ofMillis? millis with
  | none =>
    simp only [Session.step, hu]
    exact ⟨trivial, h⟩
  | some u =>
    obtain rfl := Uptime.ofMillis?_eq_some_iff.1 hu
    have hsub := Saturating.toInt_sub_of_fits hs.2
    have hsub' := Saturating.toInt_sub_of_fits hs'.2
    have hmillis := h.device.millis_eq
    rw [step_updateUptime s hu, step_updateUptime s' hu]
    exact ⟨rfl, learn h.known h.service (h.device.ticked hs.1 hs'.1) (by omega)⟩

/-- Sessions so many seconds apart give the same answer and stay as far apart. -/
theorem step (h : Shifted secs s s') {a : Action} (ha : a.isLocal = true) (hs : s.Admits a)
    (hs' : s'.Admits a) :
    (s'.step a).answer = (s.step a).answer ∧
      Shifted secs (s.step a).session (s'.step a).session := by
  cases a with
  | refresh => exact ⟨rfl, h.refresh hs hs'⟩
  | updateUptime millis => exact h.updateUptime hs hs'
  | current =>
    rw [step_current, step_current, h.corrected_eq hs.2.1 hs'.2.1 hs.2.2 hs'.2.2]
    exact ⟨rfl, h.ticked hs.1 hs'.1⟩
  | remaining deadline =>
    have hcorrected := h.corrected_eq hs.2.1 hs'.2.1 hs.2.2 hs'.2.2
    rw [step_remaining, step_remaining]
    refine ⟨?_, h.ticked hs.1 hs'.1⟩
    simp only [Service.remainingAt, hcorrected]
  | listen name => exact ⟨rfl, h.adjust (·.listen name) (fun _ _ => rfl) rfl⟩
  | forwardMillis millis => exact h.forward _
  | forwardParts secs nanos => exact h.forward _
  | resetForward => exact ⟨rfl, h.adjust (·.resetForward) (fun _ _ => rfl) rfl⟩
  | elapse millis =>
    obtain ⟨e, he⟩ := Option.isSome_iff_exists.1 hs
    obtain ⟨e', he'⟩ := Option.isSome_iff_exists.1 hs'
    rw [step_elapse s he, step_elapse s' he']
    exact ⟨rfl, h.device.elapse he he', h.known, h.service, h.boot⟩
  | _ => cases ha

theorem answers_eq (actions : List Action) (h : Shifted secs s s')
    (hlocal : ∀ a ∈ actions, a.isLocal = true) (hs : s.AdmitsAll actions)
    (hs' : s'.AdmitsAll actions) :
    (s'.run actions).map Step.answer = (s.run actions).map Step.answer := by
  induction actions generalizing s s' with
  | nil => rfl
  | cons a rest ih =>
    obtain ⟨hanswer, hstep⟩ := h.step (hlocal a List.mem_cons_self) hs.1 hs'.1
    have hrest := ih hstep (fun b hb => hlocal b (List.mem_cons_of_mem a hb)) hs.2 hs'.2
    simp only [run, List.map_cons, hanswer, hrest]

end Shifted

/-- **A change by hand is invisible** once the boot time is looked up: if the look-up succeeds on the
device as it was, it succeeds on the changed one, and every answer of the run is the same. -/
theorem answers_after_setByHand {s : Session} {boot secs : Int64} {d : Device}
    {actions : List Action} (hknown : s.service.bootKnown = true)
    (hk : s.device.kernel = .answers boot) (hord : s.device.now.Ordinary)
    (hset : s.device.setByHand? secs = some d) (hpos : 1 ≤ boot.toInt + secs.toInt)
    (hlocal : ∀ a ∈ actions, a.isLocal = true)
    (hfound : ∃ r, (Query.report.run s.device).value = .ok r)
    (hs : s.AdmitsAll (.refresh :: actions))
    (hs' : (s.step (.setByHand secs)).session.AdmitsAll (.refresh :: actions)) :
    (∃ r, (Query.report.run d).value = .ok r) ∧
      ((s.step (.setByHand secs)).session.run (.refresh :: actions)).map Step.answer =
        (s.run (.refresh :: actions)).map Step.answer := by
  obtain ⟨boot', hk', hpos', hle⟩ := Query.report_ok_iff.1 hfound
  obtain rfl := Kernel.answers.inj (hk.symm.trans hk')
  have hdevice := Device.Shifted.of_setByHand hord hk hpos' hle hpos hset
  obtain ⟨_, changed, hk₁, hk₂, -, hchanged, hmoved⟩ := hdevice.kernel
  obtain rfl := Kernel.answers.inj (hk.symm.trans hk₁)
  have hle' : changed.toInt ≤ d.now.secs := by
    have := hdevice.secs_eq
    omega
  refine ⟨Query.report_ok_iff.2 ⟨changed, hk₂, hchanged, hle'⟩, ?_⟩
  rw [step_setByHand s hset] at hs' ⊢
  -- The look-up is what sets the boot times apart; from then on the sessions are shifted.
  obtain ⟨found, hfound, hstep⟩ := step_refresh_of_boot s hk hpos' hle
  obtain ⟨found', hfound', hstep'⟩ := step_refresh_of_boot ⟨s.service, d⟩ hk₂ hchanged hle'
  have hphase := hdevice.phase_eq
  dsimp only at hfound'
  have hshifted : Shifted secs.toInt (s.step .refresh).session
      ((⟨s.service, d⟩ : Session).step .refresh).session := by
    rw [hstep, hstep']
    exact Shifted.learn hknown rfl (hdevice.ticked hs.1 hs'.1) (by omega)
  simp only [run, List.map_cons, hshifted.answers_eq actions hlocal hs.2 hs'.2]
  rfl

/-- A clock that took a server's time over a while ago. -/
def synchronizedSample : Session := (start {} .sample).session.after [.synchronize 1000500000]

/-- Set an hour back, that clock goes on as if nothing had happened. -/
theorem answers_after_hour_back :
    let actions : List Action := [.current, .elapse 700, .refresh, .forwardMillis 1500,
      .remaining 1000600000, .updateUptime 40000, .elapse (-200000), .refresh, .current]
    synchronizedSample.AdmitsAll (.refresh :: actions) ∧
      ((synchronizedSample.step (.setByHand (-3600))).session.run
          (.refresh :: actions)).map Step.answer =
        (synchronizedSample.run (.refresh :: actions)).map Step.answer := by
  intro actions
  have hset : synchronizedSample.device.setByHand? (-3600) =
      some (synchronizedSample.step (.setByHand (-3600))).session.device := by decide +kernel
  have hkernel : synchronizedSample.device.kernel = .answers 1000000 := by decide +kernel
  have hfound : ∃ r, (Query.report.run synchronizedSample.device).value = .ok r :=
    Query.report_ok_iff.2 ⟨1000000, hkernel, by decide, by decide +kernel⟩
  have hs : synchronizedSample.AdmitsAll (.refresh :: actions) := by decide +kernel
  exact ⟨hs, (answers_after_setByHand (by decide +kernel) hkernel (by decide +kernel) hset
    (by decide) (by decide) hfound hs (by decide +kernel)).2⟩

end Session

end BootClock
