import BootClock.Proofs.Frame
import Mathlib.Algebra.Ring.Int.Defs
import Mathlib.Data.List.DropRight
import Mathlib.Order.Bounds.Defs
/-!
# The total of forward time

Forward time is cut off at zero after every span that is added, so its total is not the sum of the spans
but the greatest sum of the latest of them, however many (`isGreatest_suffixSums_concat`). A reset
forgets them all and no other action counts (`isGreatest_forward_step`), so the spans alone settle the
total at every point of a run (`forward_greatest`).
-/

namespace BootClock

/-! ## Sums of suffixes -/

/-- The sums of the suffixes of a list; that of the empty one is zero. -/
def suffixSums (l : List Int) : Set Int := {n | ∃ t, t <:+ l ∧ t.sum = n}

theorem zero_mem_suffixSums (l : List Int) : 0 ∈ suffixSums l := ⟨[], List.nil_suffix, rfl⟩

theorem mem_suffixSums_concat {l : List Int} {x n : Int} :
    n ∈ suffixSums (l ++ [x]) ↔ n = 0 ∨ ∃ m ∈ suffixSums l, m + x = n := by
  constructor
  · rintro ⟨t, ht, rfl⟩
    rcases List.suffix_concat_iff.1 ht with rfl | ⟨front, rfl, hfront⟩
    · exact .inl rfl
    · exact .inr ⟨front.sum, ⟨front, hfront, rfl⟩, by simp⟩
  · rintro (rfl | ⟨m, ⟨t, ht, rfl⟩, rfl⟩)
    · exact zero_mem_suffixSums _
    · exact ⟨t ++ [x], List.suffix_concat_iff.2 (.inr ⟨t, rfl, ht⟩), by simp⟩

theorem isGreatest_suffixSums_nil : IsGreatest (suffixSums []) 0 := by
  refine ⟨zero_mem_suffixSums [], ?_⟩
  rintro n ⟨t, ht, rfl⟩
  rw [List.suffix_nil.1 ht]
  exact Int.le_refl 0

/-- With one more number at the end, the greatest sum is that number on top of the greatest before, or
nothing if that is negative. -/
theorem isGreatest_suffixSums_concat {l : List Int} {m : Int} (h : IsGreatest (suffixSums l) m)
    (x : Int) : IsGreatest (suffixSums (l ++ [x])) (max 0 (m + x)) := by
  obtain ⟨hmem, hupper⟩ := h
  constructor
  · rw [mem_suffixSums_concat]
    by_cases hneg : m + x < 0
    · exact .inl (by omega)
    · exact .inr ⟨m, hmem, by omega⟩
  · intro n hn
    rcases mem_suffixSums_concat.1 hn with rfl | ⟨k, hk, rfl⟩
    · omega
    · have hle : k ≤ m := hupper hk
      omega

/-! ## Adding a span -/

/-- A sum that does not exceed the counts is only cut off at zero. -/
theorem Service.toInt_forward_addForward {s : Service} {d : Span} (hnonneg : 0 ≤ s.forward.toInt)
    (hfits : s.forward.toInt + d.nanos.tdiv 1000000 ≤ 9223372036854775807) :
    (s.addForward d).forward.toInt = max 0 (s.forward.toInt + d.nanos.tdiv 1000000) := by
  have hlow := (fits_toInt d.millis).1
  rw [← d.toInt_millis] at hfits ⊢
  have hsum := Saturating.toInt_add_of_fits (a := s.forward) (b := d.millis) ⟨by omega, hfits⟩
  unfold addForward
  dsimp only
  split
  · next hneg =>
    have hzero : (0 : Int64).toInt = 0 := rfl
    omega
  · omega

namespace Session

/-- The span that an action adds to forward time, if it is one. -/
def Action.span? : Action → Option Span
  | .forwardMillis millis => Span.ofMillis? millis
  | .forwardParts secs nanos => Span.ofParts? secs nanos
  | _ => none

/-- No span is out of reach: each is some whole seconds and nanoseconds forward of them. -/
theorem Action.exists_span? (d : Span) : ∃ a : Action, a.span? = some d := by
  have hlower := d.lower
  have hupper := d.upper
  unfold Span.longest at hlower hupper
  have hsecs : (clamp (d.nanos / 1000000000)).toInt = d.nanos / 1000000000 :=
    toInt_clamp_of_fits ⟨by omega, by omega⟩
  have hparts : d.nanos / 1000000000 * 1000000000 + ((d.nanos % 1000000000).toNat : Int) = d.nanos := by
    omega
  refine ⟨.forwardParts (clamp (d.nanos / 1000000000)) (d.nanos % 1000000000).toNat, ?_⟩
  rw [span?, Span.ofParts?, if_pos (by omega), hsecs, hparts, Span.ofNanos?, dif_pos ⟨d.lower, d.upper⟩]

/-- The whole milliseconds, truncated toward zero, of the spans that were added since the last reset. -/
def added (actions : List Action) : List Int :=
  ((actions.rtakeWhile (· ≠ .resetForward)).filterMap Action.span?).map (·.nanos.tdiv 1000000)

theorem added_concat_resetForward (actions : List Action) : added (actions ++ [.resetForward]) = [] := by
  simp [added]

theorem added_concat {actions : List Action} {a : Action} (ha : a ≠ .resetForward) :
    added (actions ++ [a]) = added actions ++ (a.span?.map (·.nanos.tdiv 1000000)).toList := by
  cases hd : a.span? <;> simp [added, ha, hd]

variable (s : Session)

/-- Every span of the run that is added leads to a 64-bit count before the total is cut off at zero. -/
def AddsFit (s : Session) : List Action → Prop
  | [] => True
  | a :: rest =>
    (∀ d ∈ a.span?, s.service.forward.toInt + d.nanos.tdiv 1000000 ≤ 9223372036854775807) ∧
      (s.step a).session.AddsFit rest

instance decidableAddsFit (s : Session) : (actions : List Action) → Decidable (s.AddsFit actions)
  | [] => isTrue trivial
  | a :: rest =>
    have := decidableAddsFit (s.step a).session rest
    inferInstanceAs (Decidable (_ ∧ _))

theorem addsFit_append {actions rest : List Action} :
    s.AddsFit (actions ++ rest) ↔ s.AddsFit actions ∧ (s.after actions).AddsFit rest := by
  induction actions generalizing s with
  | nil => simp [AddsFit]
  | cons a actions ih => simp [AddsFit, ih, and_assoc]

/-! ## Steps and runs -/

theorem service_step_of_span {a : Action} {d : Span} (h : a.span? = some d) :
    (s.step a).session.service = s.service.addForward d := by
  cases a with
  | forwardMillis millis =>
    simp only [step, show Span.ofMillis? millis = some d from h]
    rfl
  | forwardParts secs nanos =>
    simp only [step, show Span.ofParts? secs nanos = some d from h]
    rfl
  | _ => cases h

theorem forward_step_of_no_span {a : Action} (h : a.span? = none) (ha : a ≠ .resetForward) :
    (s.step a).session.service.forward = s.service.forward := by
  cases a with
  | forwardMillis millis =>
    simp only [step, show Span.ofMillis? millis = none from h]
    rfl
  | forwardParts secs nanos =>
    simp only [step, show Span.ofParts? secs nanos = none from h]
    rfl
  | resetForward => exact absurd rfl ha
  | _ => exact get_step s (f := .forward) (by simp [Action.writes])

/-- One action more keeps the total the greatest sum. -/
theorem isGreatest_forward_step {actions : List Action} {a : Action}
    (h : IsGreatest (suffixSums (added actions)) s.service.forward.toInt) (hfit : s.AddsFit [a]) :
    IsGreatest (suffixSums (added (actions ++ [a]))) (s.step a).session.service.forward.toInt := by
  by_cases ha : a = .resetForward
  · subst ha
    rw [added_concat_resetForward]
    exact isGreatest_suffixSums_nil
  · rw [added_concat ha]
    cases hd : a.span? with
    | none =>
      rw [forward_step_of_no_span s hd ha]
      simpa using h
    | some d =>
      have hnonneg : 0 ≤ s.service.forward.toInt := h.2 (zero_mem_suffixSums _)
      rw [service_step_of_span s hd, Service.toInt_forward_addForward hnonneg (hfit.1 d hd)]
      exact isGreatest_suffixSums_concat h _

theorem isGreatest_forward_after (hzero : s.service.forward = 0) (actions : List Action)
    (hfit : s.AddsFit actions) :
    IsGreatest (suffixSums (added actions)) (s.after actions).service.forward.toInt := by
  induction actions using List.reverseRecOn with
  | nil =>
    rw [after_nil, hzero]
    exact isGreatest_suffixSums_nil
  | append_singleton actions a ih =>
    obtain ⟨hbefore, hlast⟩ := s.addsFit_append.1 hfit
    rw [after_append]
    exact isGreatest_forward_step _ (ih hbefore) hlast

/-- **The total of forward time** is, at every point of every run of a clock, the greatest sum of the
spans added latest, since the last reset and in whole milliseconds, if none of them led beyond the
64-bit counts. -/
theorem forward_greatest {limits : Thresholds} {now : Instant} {started : Nat} {d : Device}
    {actions : List Action} (h : (made limits now started d).AddsFit actions) :
    IsGreatest (suffixSums (added actions))
      ((made limits now started d).after actions).service.forward.toInt := by
  refine isGreatest_forward_after _ ?_ actions h
  exact get_step _ (a := .refresh) (f := .forward) (by simp [Action.writes])

/-- After the reset a span that is cut off, one of almost the highest count, and one back that leaves
less than a second of it; each has nanoseconds that do not count. -/
def cutOff : List Action :=
  [.forwardMillis 60000, .resetForward, .forwardParts (-90) 999999999,
    .forwardParts 9223372036854774 999999999, .setByHand 3600, .refresh,
    .forwardParts (-9223372036854775) 999999999, .synchronize 1000500000]

theorem forward_greatest_of_cutOff :
    let s := made {} Device.sample.now 0 .sample
    s.AddsFit cutOff ∧
      added cutOff = [-89000, 9223372036854774999, -9223372036854774000] ∧
      (s.after cutOff).service.forward.toInt = 999 ∧
      IsGreatest (suffixSums (added cutOff)) (s.after cutOff).service.forward.toInt := by
  dsimp only
  have hfit : (made {} Device.sample.now 0 .sample).AddsFit cutOff := by decide +kernel
  exact ⟨hfit, by decide +kernel, by decide +kernel, forward_greatest hfit⟩

end Session

end BootClock
