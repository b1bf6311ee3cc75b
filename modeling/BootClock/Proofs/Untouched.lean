import BootClock.Proofs.Step
/-!
# Devices that nobody touches

On a device whose clock only passes time, with no server's time taken over and no time added, the
anchor is what the first look-up found and the boot time in use what the latest one did. Both are the
kernel's whole seconds and the milliseconds that the clock was into its second at the look-up, so the
correction is the difference of those milliseconds (`Untouched.exact_eq`). The clock answers its
device's time exactly if they are the same (`current_of_untouched`).
-/

namespace BootClock.Session

/-- Time passes, the boot time is looked up, or the clock is read. -/
def Action.isIdle : Action → Bool
  | .elapse millis => decide (0 ≤ millis.toInt)
  | .refresh | .current => true
  | _ => false

/-- The clock reading of the latest look-up of a run, `last` if there is none. -/
def lookedUp (s : Session) (last : Instant) : List Action → Instant
  | [] => last
  | a :: rest => (s.step a).session.lookedUp (if a = .refresh then s.device.now else last) rest

/-- The clock was made at the reading `first`, the latest look-up was at the reading `last`, and
nothing but time has changed the device since it was started at `boot`. -/
structure Untouched (s : Session) (boot : Int64) (first last : Instant) : Prop where
  settled : s.device.Settled boot
  made : first.Ordinary
  looked : last.Ordinary
  known : s.service.bootKnown = true
  anchor : s.service.anchor.toInt = boot.toInt * 1000 + first.phase
  boot : s.service.boot.toInt = boot.toInt * 1000 + last.phase
  offset : s.service.serverOffset = 0
  forward : s.service.forward = 0

namespace Untouched

variable {s : Session} {boot : Int64} {first last : Instant}

theorem refresh (h : s.Untouched boot first last) :
    (s.step .refresh).session.Untouched boot first s.device.now := by
  obtain ⟨found, hfound, hstep⟩ := step_refresh_of_settled s h.settled
  have hanchor := Service.anchor_learn h.known found
  rw [hstep]
  exact ⟨h.settled, h.made, h.settled.ordinary, rfl, hanchor ▸ h.anchor, hfound, h.offset, h.forward⟩

/-- Time that would pass the last instant does not pass. -/
theorem elapse {millis : Int64} (h : s.Untouched boot first last) (hpos : 0 ≤ millis.toInt) :
    (s.step (.elapse millis)).session.Untouched boot first last := by
  cases he : s.device.elapse? millis with
  | none =>
    simp only [Session.step, he, happen]
    exact h
  | some d =>
    rw [step_elapse s he]
    exact { h with settled := (h.settled.elapse hpos he).1 }

theorem step {a : Action} (h : s.Untouched boot first last) (ha : a.isIdle = true) :
    (s.step a).session.Untouched boot first (if a = .refresh then s.device.now else last) := by
  cases a with
  | refresh => exact h.refresh
  | elapse millis => exact h.elapse (of_decide_eq_true ha)
  | current =>
    rw [step_current, h.settled.ticked]
    exact h
  | _ => cases ha

theorem after (actions : List Action) (h : s.Untouched boot first last)
    (hidle : ∀ a ∈ actions, a.isIdle = true) :
    (s.after actions).Untouched boot first (s.lookedUp last actions) := by
  induction actions generalizing s last with
  | nil => exact h
  | cons a rest ih =>
    exact ih (h.step (hidle a List.mem_cons_self)) fun b hb => hidle b (List.mem_cons_of_mem a hb)

/-- The whole seconds of the two look-ups are the kernel's and cancel. -/
theorem exact_eq (h : s.Untouched boot first last) :
    s.service.exact = first.phase - last.phase := by
  have hanchor := h.anchor
  have hboot := h.boot
  unfold Service.exact
  rw [h.offset, h.forward, Int64.toInt_zero]
  omega

/-- Neither reading is a second or more into its second. -/
theorem natAbs_exact_lt (h : s.Untouched boot first last) : s.service.exact.natAbs < 1000 := by
  have hexact := h.exact_eq
  have h1 := first.phase_nonneg
  have h2 := h.made.phase_lt
  have h3 := last.phase_nonneg
  have h4 := h.looked.phase_lt
  omega

theorem sumsFit (h : s.Untouched boot first last) : s.service.SumsFit := by
  have hlt := h.natAbs_exact_lt
  have hsum : s.service.anchor.toInt - s.service.boot.toInt = s.service.exact := by
    rw [h.anchor, h.boot, h.exact_eq]
    omega
  have hfits : Fits s.service.exact := by
    unfold Fits
    omega
  refine ⟨hsum ▸ hfits, ?_, hfits⟩
  rw [h.offset, Int64.toInt_zero, hsum, Int.add_zero]
  exact hfits

/-- The clock is never moved before the first instant, as it has been running since the start. -/
theorem reaches_iff (h : s.Untouched boot first last) : s.service.Reaches s.device.now ↔
    s.device.now.millis.toInt + (first.phase - last.phase) < (Instant.lastSecond + 1) * 1000 := by
  have hlt := h.natAbs_exact_lt
  have hpos := h.settled.pos
  have hle := h.settled.le_now
  have hclock := s.device.now.toInt_millis_eq_phase
  have hphase := s.device.now.phase_nonneg
  rw [← h.exact_eq]
  constructor
  · exact And.right
  · intro hend
    refine ⟨?_, hend⟩
    unfold Instant.firstSecond
    omega

end Untouched

theorem untouched_start {d : Device} {boot : Int64} (limits : Thresholds) (hd : d.Settled boot) :
    (start limits d).session.Untouched boot d.now d.now := by
  obtain ⟨found, hfound, hstart⟩ := start_of_settled limits hd
  rw [hstart]
  exact ⟨hd, hd.ordinary, hd.ordinary, rfl, hfound, hfound, rfl, rfl⟩

/-- **The clock on a device that nobody touches** answers the device's time moved by what its first
and its latest look-up differ in their milliseconds into the second; that is the device's time itself
exactly if they do not differ, or if the moved time is past the last instant. -/
theorem current_of_untouched {limits : Thresholds} {d : Device} {boot : Int64}
    {actions : List Action} (hd : d.Settled boot) (hidle : ∀ a ∈ actions, a.isIdle = true) :
    let s := (start limits d).session.after actions
    let moved := d.now.phase - ((start limits d).session.lookedUp d.now actions).phase
    let past := (Instant.lastSecond + 1) * 1000 ≤ s.device.now.millis.toInt + moved
    ∃ u, (s.step .current).answer = .time (.ok u) ∧
      (¬ past → u.total = s.device.now.total + moved * 1000000) ∧
      (u = s.device.now ↔ moved = 0 ∨ past) := by
  have h := (untouched_start limits hd).after actions hidle
  intro s moved past
  have hexact : s.service.exact = moved := h.exact_eq
  have hreaches : s.service.Reaches s.device.now ↔ ¬ past := h.reaches_iff.trans Int.not_le.symm
  by_cases hpast : past
  · have hlt := h.natAbs_exact_lt
    have hcorrected := Service.corrected_of_not_reaches h.sumsFit h.settled.ordinary (by omega)
      fun hr => hreaches.1 hr hpast
    refine ⟨s.device.now, ?_, fun hnot => absurd hpast hnot, fun _ => .inr hpast, fun _ => rfl⟩
    rw [step_current, hcorrected]
  · obtain ⟨u, hu, hord, htotal⟩ :=
      current_of_reaches s h.sumsFit h.settled.ordinary (hreaches.2 hpast)
    rw [hexact] at htotal
    refine ⟨u, hu, fun _ => htotal, fun heq => .inl ?_, ?_⟩
    · rw [heq] at htotal
      omega
    · rintro (hzero | hnot)
      · exact hord.ext h.settled.ordinary (by omega)
      · exact absurd hnot hpast

/-- Looked up a whole second later, the boot time is the same, and the clock is right ever after. -/
theorem current_of_whole_second :
    let actions : List Action := [.elapse 1000, .refresh, .elapse 700, .current]
    let s := (start {} .sample).session.after actions
    (∀ a ∈ actions, a.isIdle = true) ∧ (s.step .current).answer = .time (.ok s.device.now) := by
  intro actions s
  have hidle : ∀ a ∈ actions, a.isIdle = true := by decide
  have hmoved : Device.sample.now.phase -
      ((start {} .sample).session.lookedUp Device.sample.now actions).phase = 0 := by decide +kernel
  obtain ⟨u, hu, -, hiff⟩ := current_of_untouched Device.settled_sample hidle
  refine ⟨hidle, ?_⟩
  rw [hu, hiff.2 (.inl hmoved)]

/-- Looked up half a second later, the boot time is half a second later too, and the clock, which
was right, is set back by that much. -/
theorem current_back_of_half_second :
    let s := (start {} .sample).session.after [.elapse 500]
    Device.sample.Settled 1000000 ∧ (s.step .current).answer = .time (.ok s.device.now) ∧
      ∃ u, ((s.after [.refresh]).step .current).answer = .time (.ok u) ∧
        u ≠ (s.after [.refresh]).device.now ∧ u.total = s.device.now.total - 500000000 := by
  intro s
  have hbefore := current_of_reaches s (by decide +kernel) (by decide +kernel) (by decide +kernel)
  obtain ⟨t, ht, htord, httotal⟩ := hbefore
  obtain ⟨u, hu, -, htotal⟩ := current_of_reaches (s.after [.refresh])
    (by decide +kernel) (by decide +kernel) (by decide +kernel)
  have hexact : s.service.exact = 0 := by decide +kernel
  have hback : (s.after [.refresh]).service.exact = -500 := by decide +kernel
  have hnow : (s.after [.refresh]).device.now = s.device.now := by decide +kernel
  have hsame : t = s.device.now := htord.ext (by decide +kernel) (by omega)
  rw [hback, hnow] at htotal
  refine ⟨Device.settled_sample, by rw [ht, hsame], u, hu, ?_, by omega⟩
  rw [hnow]
  rintro rfl
  omega

end BootClock.Session
