import BootClock.Proofs.Step
/-!
# What each call may change

Every action writes a few fields of the clock at most (`Action.writes`, `sameBut_step`), so a run keeps
what none of its actions writes (`get_after`). A look-up that is refused, a server's time that is
ignored and a question change nothing at all (`touches_own_fields`).
-/

namespace BootClock

namespace Service

/-! ## Fields -/

/-- A part of the clock's state. -/
inductive Field where
  | lag
  | resync
  | anchor
  | boot
  | bootKnown
  | serverOffset
  | forward
  | synchronized
  | listeners
  | started
  deriving DecidableEq, Repr

/-- What a field holds. -/
def Field.Value : Field → Type
  | lag | resync | anchor | boot | serverOffset | forward => Int64
  | bootKnown | synchronized => Bool
  | listeners => List String
  | started => Nat

def Field.get : (f : Field) → Service → f.Value
  | lag, s => s.lag
  | resync, s => s.resync
  | anchor, s => s.anchor
  | boot, s => s.boot
  | bootKnown, s => s.bootKnown
  | serverOffset, s => s.serverOffset
  | forward, s => s.forward
  | synchronized, s => s.synchronized
  | listeners, s => s.listeners
  | started, s => s.started

/-- The clock holds the same as before, but for these fields. -/
def SameBut (fields : List Field) (s s' : Service) : Prop := ∀ f ∉ fields, f.get s' = f.get s

/-- There are no fields besides. -/
theorem sameBut_nil_iff {s s' : Service} : SameBut [] s s' ↔ s' = s := by
  refine ⟨fun h => ?_, fun h f _ => h ▸ rfl⟩
  have hget : ∀ f : Field, f.get s' = f.get s := fun f => h f List.not_mem_nil
  cases s
  cases s'
  congr 1
  · exact hget .lag
  · exact hget .resync
  · exact hget .anchor
  · exact hget .boot
  · exact hget .bootKnown
  · exact hget .serverOffset
  · exact hget .forward
  · exact hget .synchronized
  · exact hget .listeners
  · exact hget .started

theorem SameBut.refl (fields : List Field) (s : Service) : SameBut fields s s := fun _ _ => rfl

variable (s : Service)

theorem sameBut_learn (boot : Int64) : SameBut [.anchor, .boot, .bootKnown] s (s.learn boot) := by
  intro f hf
  cases f with
  | anchor | boot | bootKnown => simp at hf
  | _ => rfl

theorem sameBut_refreshed (answer : Except Fault Report) :
    SameBut [.anchor, .boot, .bootKnown] s (s.refreshed answer) := by
  cases answer with
  | ok r => exact s.sameBut_learn _
  | error f => exact .refl _ s

theorem sameBut_applied (lead : Int64) :
    SameBut [.anchor, .serverOffset, .synchronized] s (s.applied lead) := by
  intro f hf
  cases f with
  | anchor | serverOffset | synchronized => simp at hf
  | _ => rfl

theorem sameBut_addForward (d : Span) : SameBut [.forward] s (s.addForward d) := by
  intro f hf
  cases f with
  | forward => simp at hf
  | _ => rfl

theorem sameBut_resetForward : SameBut [.forward] s s.resetForward := by
  intro f hf
  cases f with
  | forward => simp at hf
  | _ => rfl

theorem sameBut_listen (name : String) : SameBut [.listeners] s (s.listen name) := by
  intro f hf
  cases f with
  | listeners => simp at hf
  | _ => rfl

end Service

namespace Session

/-! ## Steps and runs -/

/-- The fields of the clock that an action may write. -/
def Action.writes : Action → List Service.Field
  | .refresh | .updateUptime _ => [.anchor, .boot, .bootKnown]
  | .synchronize _ => [.anchor, .serverOffset, .synchronized]
  | .forwardMillis _ | .forwardParts .. | .resetForward => [.forward]
  | .listen _ => [.listeners]
  | .current | .uncorrected | .remaining _ | .sinceStart => []
  | .setNow _ | .setKernel _ | .setTick _ | .elapse _ | .setByHand _ => []

variable (s : Session)

theorem sameBut_forward (d : Option Span) :
    s.service.SameBut [.forward] (s.forward d).session.service := by
  cases d with
  | none => exact .refl _ s.service
  | some d => exact s.service.sameBut_addForward d

theorem sameBut_step (a : Action) : s.service.SameBut a.writes (s.step a).session.service := by
  cases a with
  | refresh =>
    rw [step_refresh]
    exact s.service.sameBut_refreshed _
  | updateUptime millis =>
    cases hu : Uptime.ofMillis? millis with
    | some u =>
      rw [step_updateUptime s hu]
      exact s.service.sameBut_learn _
    | none =>
      simp only [step, hu]
      exact .refl _ s.service
  | synchronize server =>
    rcases s.takenOver_or_ignored server with htaken | hignored
    · rw [htaken.service]
      exact s.service.sameBut_applied _
    · rw [hignored.service]
      exact .refl _ s.service
  | forwardMillis | forwardParts => exact sameBut_forward s _
  | resetForward => exact s.service.sameBut_resetForward
  | listen name => exact s.service.sameBut_listen name
  | current | uncorrected | remaining | sinceStart => exact .refl _ s.service
  | setNow | setKernel | setTick | elapse | setByHand =>
    simp only [step, service_happen]
    exact .refl _ s.service

theorem get_step {a : Action} {f : Service.Field} (h : f ∉ a.writes) :
    f.get (s.step a).session.service = f.get s.service := sameBut_step s a f h

/-- A run keeps every field that none of its actions writes. -/
theorem get_after (actions : List Action) {f : Service.Field} (h : ∀ a ∈ actions, f ∉ a.writes) :
    f.get (s.after actions).service = f.get s.service := by
  induction actions generalizing s with
  | nil => rfl
  | cons a rest ih =>
    rw [after_cons, ih _ fun b hb => h b (List.mem_cons_of_mem a hb),
      get_step s (h a List.mem_cons_self)]

/-! ## Calls that change nothing -/

theorem events_refresh_of_not_refused (h : s.device.refusal? = none) :
    (s.step .refresh).events = [] := by
  obtain ⟨r, hr⟩ := Query.report_ok_iff.2 (Device.refusal?_eq_none_iff.1 h)
  rw [step_refresh_of_report s hr]

theorem service_of_not_applied {server : Int64}
    (h : (s.step (.synchronize server)).answer = .applied false) :
    (s.step (.synchronize server)).session.service = s.service := by
  rcases s.takenOver_or_ignored server with htaken | hignored
  · rw [htaken.answer] at h
    cases h
  · exact hignored.service

/-- A server's time that is not positive is not worth a look at the clock. -/
theorem step_synchronize_of_nonpos {server : Int64} (h : server.toInt ≤ 0) :
    s.step (.synchronize server) = ⟨s, .applied false, [], [], []⟩ := by
  simp only [step, Service.synchronize, if_pos h]
  rfl

/-- What can be asked of a clock. Asked for local times, it tells the same instants in another zone. -/
inductive Question where
  | current
  | uncorrected
  | remaining (deadline : Int64)
  | offset
  | synchronized
  | sinceStart

/-- The clock is asked; a question that it has no answer to is answered by the cause. -/
def askQuestion (s : Session) : Question → Step
  | .current => s.ask s.service.current .time
  | .uncorrected => s.ask s.service.uncorrected fun t => .time (.ok t)
  | .remaining deadline => s.ask (s.service.remaining deadline) .left
  | .offset => s.ask (pure s.service.offset) .left
  | .synchronized => s.ask (pure s.service.synchronized) .applied
  | .sinceStart => s.ask s.service.sinceStart .elapsed

theorem service_askQuestion (q : Question) : (s.askQuestion q).session.service = s.service := by
  cases q <;> rfl

/-- **Each call changes its own fields only**, and so does each run of them. A look-up that is refused
keeps the whole clock and warns once, one that is not does not warn; a server's time that is not taken
over keeps the whole clock, and one that is not positive is ignored without a look at the device; and
a question keeps the whole clock whether or not there is an answer to it. -/
theorem touches_own_fields :
    (∀ a, s.service.SameBut a.writes (s.step a).session.service) ∧
      (∀ actions f, (∀ a ∈ actions, f ∉ Action.writes a) →
        f.get (s.after actions).service = f.get s.service) ∧
      (match s.device.refusal? with
        | some f => (Event.bootTimeKept f).severity = .warn ∧ s.step .refresh =
            ⟨⟨s.service, s.device.ticked⟩, .done, [], [.clock, .kernel], [.bootTimeKept f]⟩
        | none => (s.step .refresh).events = []) ∧
      (∀ server, (s.step (.synchronize server)).answer = .applied false →
        (s.step (.synchronize server)).session.service = s.service) ∧
      (∀ server, server.toInt ≤ 0 →
        s.step (.synchronize server) = ⟨s, .applied false, [], [], []⟩) ∧
      ∀ q, (s.askQuestion q).session.service = s.service := by
  refine ⟨sameBut_step s, fun actions f => get_after s actions, ?_,
    fun server => service_of_not_applied s, fun server => step_synchronize_of_nonpos s,
    service_askQuestion s⟩
  cases h : s.device.refusal? with
  | some f => exact ⟨rfl, step_refresh_of_refusal s h⟩
  | none => exact events_refresh_of_not_refused s h

end Session

end BootClock
