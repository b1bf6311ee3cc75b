import BootClock.Proofs.Step
/-!
# Who is told

A step tells the listeners of a server's time that it takes over, all that are registered by then in
the order of registration, and no other step tells anyone (`fired_step`). Over a run the calls are
therefore settled by the actions and their answers alone (`notified`), and none is lost or made twice
(`fired_run`). The first positive server's time of a run is always taken over.
-/

namespace BootClock.Session

/-- The listener that an action registers. -/
def Action.registers? : Action → Option String
  | .listen name => some name
  | _ => none

/-- The listeners that are registered after some actions, in order. -/
def registered (actions : List Action) : List String := actions.filterMap Action.registers?

/-- Who is told of an action that was answered so, when these listeners are registered: all of them,
if it is a server's time that was taken over. -/
def told (a : Action) (answer : Answer) (names : List String) : List String :=
  match a, answer with
  | .synchronize _, .applied true => names
  | _, _ => []

/-- Who is told in a whole run, with these answers, of a clock that `names` listen to from the
start. -/
def notified (names : List String) (actions : List Action) (answers : List Answer) : List String :=
  (actions.zip answers).zipIdx.flatMap fun ((a, answer), i) =>
    told a answer (names ++ registered (actions.take i))

theorem registered_cons (a : Action) (actions : List Action) :
    registered (a :: actions) = a.registers?.toList ++ registered actions := by
  unfold registered
  cases h : a.registers? <;> simp [h]

/-- Who is told of the first action, and then of the others. -/
theorem notified_cons (names : List String) (a : Action) (rest : List Action) (answer : Answer)
    (answers : List Answer) :
    notified names (a :: rest) (answer :: answers) =
      told a answer names ++ notified (names ++ a.registers?.toList) rest answers := by
  have hfirst : registered ((a :: rest).take 0) = [] := rfl
  simp only [notified, List.zip_cons_cons, List.zipIdx_cons, List.flatMap_cons, hfirst,
    List.append_nil, List.zipIdx_succ, List.flatMap_map, List.take_succ_cons, registered_cons,
    List.append_assoc]

variable (s : Session)

/-! ## One step -/

/-- The action is a server's time or registers a listener. -/
def Action.concernsListeners : Action → Bool
  | .synchronize _ | .listen _ => true
  | _ => false

/-- A step that tells no one, registers no one and takes no server's time over. -/
structure Quiet (step : Step) : Prop where
  fired : step.fired = []
  listeners : step.session.service.listeners = s.service.listeners
  synchronized : step.session.service.synchronized = s.service.synchronized

theorem quiet_refresh : s.Quiet (s.step .refresh) := by
  constructor
  · rfl
  · rw [step_refresh]
    cases (Query.report.run s.device).value <;> rfl
  · rw [step_refresh]
    cases (Query.report.run s.device).value <;> rfl

theorem quiet_updateUptime (millis : Int64) : s.Quiet (s.step (.updateUptime millis)) := by
  cases hu : Uptime.ofMillis? millis with
  | some u =>
    rw [step_updateUptime s hu]
    exact ⟨rfl, rfl, rfl⟩
  | none =>
    simp only [step, hu]
    exact ⟨rfl, rfl, rfl⟩

theorem quiet_forward (d : Option Span) : s.Quiet (s.forward d) := by
  cases d <;> exact ⟨rfl, rfl, rfl⟩

theorem quiet_happen (d : Option Device) : s.Quiet (s.happen d) := by
  cases d <;> exact ⟨rfl, rfl, rfl⟩

theorem quiet_step {a : Action} (ha : a.concernsListeners = false) : s.Quiet (s.step a) := by
  cases a with
  | refresh => exact quiet_refresh s
  | updateUptime millis => exact quiet_updateUptime s millis
  | forwardMillis | forwardParts => exact quiet_forward s _
  | elapse | setByHand => exact quiet_happen s _
  | setNow | setKernel | setTick => exact ⟨rfl, rfl, rfl⟩
  | current | uncorrected | remaining | resetForward | sinceStart => exact ⟨rfl, rfl, rfl⟩
  | synchronize | listen => cases ha

/-- A server's time that is not positive is as good as none. -/
theorem quiet_synchronize {server : Int64} (h : server.toInt ≤ 0) :
    s.Quiet (s.step (.synchronize server)) := by
  simp only [step, Service.synchronize, if_pos h]
  exact ⟨rfl, rfl, rfl⟩

theorem fired_synchronize (server : Int64) :
    (s.step (.synchronize server)).fired =
      told (.synchronize server) (s.step (.synchronize server)).answer s.service.listeners := by
  rcases s.takenOver_or_ignored server with htaken | hignored
  · rw [htaken.fired, htaken.answer]
    rfl
  · rw [hignored.fired, hignored.answer]
    rfl

/-- A server's time that is taken over is told to all listeners, and nothing else to anyone. -/
theorem fired_step (a : Action) :
    (s.step a).fired = told a (s.step a).answer s.service.listeners := by
  cases a with
  | synchronize server => exact fired_synchronize s server
  | listen name => rfl
  | _ => exact (quiet_step s rfl).fired

theorem listeners_synchronize (server : Int64) :
    (s.step (.synchronize server)).session.service.listeners = s.service.listeners := by
  rcases s.takenOver_or_ignored server with htaken | hignored
  · rw [htaken.service]
    rfl
  · rw [hignored.service]

/-- Listeners are added at the end, and none is ever taken away. -/
theorem listeners_step (a : Action) :
    (s.step a).session.service.listeners = s.service.listeners ++ a.registers?.toList := by
  cases a with
  | listen name => rfl
  | synchronize server => exact (listeners_synchronize s server).trans (List.append_nil _).symm
  | _ => exact (quiet_step s rfl).listeners.trans (List.append_nil _).symm

theorem listeners_after (actions : List Action) :
    (s.after actions).service.listeners = s.service.listeners ++ registered actions := by
  induction actions generalizing s with
  | nil => exact (List.append_nil _).symm
  | cons a rest ih =>
    rw [after_cons, ih, listeners_step, registered_cons, List.append_assoc]

/-! ## The first server's time -/

/-- A server's time that counts. -/
def Action.isServerTime : Action → Bool
  | .synchronize server => decide (0 < server.toInt)
  | _ => false

/-- Nothing but a positive server's time is ever taken over. -/
theorem synchronized_step {a : Action} (ha : a.isServerTime = false) :
    (s.step a).session.service.synchronized = s.service.synchronized := by
  cases a with
  | synchronize server =>
    exact (quiet_synchronize s (Int.not_lt.1 (of_decide_eq_false ha))).synchronized
  | listen name => rfl
  | _ => exact (quiet_step s rfl).synchronized

theorem synchronized_after_eq (actions : List Action)
    (h : ∀ a ∈ actions, a.isServerTime = false) :
    (s.after actions).service.synchronized = s.service.synchronized := by
  induction actions generalizing s with
  | nil => rfl
  | cons a rest ih =>
    rw [after_cons, ih _ fun b hb => h b (List.mem_cons_of_mem a hb),
      synchronized_step s (h a List.mem_cons_self)]

theorem applied_of_not_synchronized {server : Int64} (hpos : 0 < server.toInt)
    (h : s.service.synchronized = false) :
    (s.step (.synchronize server)).answer = .applied true := by
  have hdue : s.service.due (s.service.measure server s.device.now) = true := by
    simp [Service.due, h]
  rw [step_synchronize s hpos, Service.synchronizedAt_of_due hdue]

/-! ## Runs -/

theorem run_cons (a : Action) (rest : List Action) :
    s.run (a :: rest) = s.step a :: (s.step a).session.run rest := rfl

theorem flatMap_fired_run (actions : List Action) :
    (s.run actions).flatMap Step.fired =
      notified s.service.listeners actions ((s.run actions).map Step.answer) := by
  induction actions generalizing s with
  | nil => rfl
  | cons a rest ih =>
    rw [run_cons, List.flatMap_cons, List.map_cons, notified_cons, ih, listeners_step, fired_step]

/-- A new clock has no listeners and took no server's time over. -/
theorem start_unheard (limits : Thresholds) (d : Device) :
    (start limits d).session.service.listeners = [] ∧
      (start limits d).session.service.synchronized = false := by
  rw [start_eq]
  exact ⟨(quiet_refresh _).listeners, (quiet_refresh _).synchronized⟩

/-- **No notification is lost or made twice:** the listeners called in a run are those of its server's
times that were taken over, in order, for each of them the ones registered before it; a step calls
no one else; and the first positive server's time is always taken over. -/
theorem fired_run (limits : Thresholds) (d : Device) :
    let s := (start limits d).session
    (∀ actions, (start limits d :: s.run actions).flatMap Step.fired =
      notified [] actions ((s.run actions).map Step.answer)) ∧
    (∀ before a, ((s.after before).step a).fired =
      told a ((s.after before).step a).answer (registered before)) ∧
    (∀ before server, (∀ a ∈ before, a.isServerTime = false) → 0 < server.toInt →
      ((s.after before).step (.synchronize server)).answer = .applied true) := by
  intro s
  obtain ⟨hlisteners, hsync⟩ := start_unheard limits d
  refine ⟨fun actions => ?_, fun before a => ?_, fun before server hbefore hpos => ?_⟩
  · rw [List.flatMap_cons, flatMap_fired_run, hlisteners]
    rfl
  · rw [fired_step, listeners_after, hlisteners, List.nil_append]
  · apply applied_of_not_synchronized _ hpos
    rw [synchronized_after_eq s before hbefore, hsync]

/-- A listener that comes late hears of the later takeover only, and no one of a server's time that
counts for nothing or tells nothing new. -/
theorem fired_with_late_listener :
    let s := (start {} .sample).session
    let before : List Action := [.listen "first", .elapse 700, .synchronize (-5), .refresh]
    let actions := before ++
      [.synchronize 1000500000, .listen "late", .synchronize 1000500100, .synchronize 1000900000]
    ((s.after before).step (.synchronize 1000500000)).answer = .applied true ∧
      (start {} .sample :: s.run actions).flatMap Step.fired = ["first", "first", "late"] := by
  intro s before actions
  obtain ⟨hrun, -, hfirst⟩ := fired_run {} .sample
  exact ⟨hfirst before 1000500000 (by decide) (by decide), (hrun actions).trans (by decide +kernel)⟩

end BootClock.Session
