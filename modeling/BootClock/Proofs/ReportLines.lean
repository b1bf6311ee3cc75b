import BootClock.Proofs.HumanText
import BootClock.Proofs.OneSample
import BootClock.Proofs.ReportText
import BootClock.Program
import Mathlib.Data.List.Basic
/-!
# What a printed report tells

The report in lines has a line for the uptime, in words and in milliseconds, one for the boot time and
one for the clock reading; a `Summary` is read back from them. The words of an uptime have neither a
bracket nor a line break in them (`mem_writeSeconds`), so nothing of a report that a device gives is lost
but the bare number of seconds, which its words tell (`ofLines?_lines`). Printed in either format, a
report is read back from what is printed (`tells_shown`).
-/

namespace BootClock

/-- What the lines of a report tell. -/
structure Summary where
  /-- The uptime in words. -/
  human : String
  /-- Milliseconds since boot. -/
  millis : Int64
  /-- The second of the boot, counted from 1970. -/
  boot : Int64
  /-- The clock reading. -/
  sampledAt : Instant
  deriving DecidableEq

namespace Summary

/-- The integer that a text goes on with before it ends like this. -/
def integer? (ending s : List Char) : Option Int64 :=
  match Json.readInteger s with
  | .ok (n, rest) => if rest = ending then some n else none
  | .error _ => none

/-- Words, and milliseconds in brackets. -/
def uptime? (s : List Char) : Option (List Char × Int64) :=
  match split '(' s with
  | [words, number] => do return (← words.dropSuffix? [' '], ← integer? " ms)".toList number)
  | _ => none

/-- Reads the three lines. -/
def ofLines? (s : List Char) : Option Summary :=
  match split '\n' s with
  | [uptime, boot, sampled, []] => do
    let (human, millis) ← uptime? (← uptime.dropPrefix? "Uptime:    ".toList)
    let boot ← integer? [] (← boot.dropPrefix? "Boot time: ".toList)
    let sampledAt ← (Instant.read (← sampled.dropPrefix? "Sampled:   ".toList)).toOption
    return { human := String.ofList human, millis, boot, sampledAt }
  | _ => none

end Summary

/-! ## Characters -/

namespace Instant

/-- A digit or one of the marks that stand between numbers. -/
def IsClockChar (c : Char) : Prop := c.isDigit = true ∨ c ∈ ['+', '-', ':', '.', 'T', 'Z']

instance (c : Char) : Decidable (IsClockChar c) := inferInstanceAs (Decidable (_ ∨ _))

theorem isClockChar_padded (width n : Nat) : ∀ c ∈ Numeral.padded width n, IsClockChar c :=
  fun _ hmem => .inl (Numeral.isDigit_of_mem_padded hmem)

theorem isClockChar_date (d : Date) : ∀ c ∈ dateText d, IsClockChar c := by
  have hyear : ∀ c ∈ yearText d.year, IsClockChar c := by
    unfold yearText
    split
    · exact isClockChar_padded 4 _
    · refine List.forall_mem_cons.2 ⟨?_, isClockChar_padded 4 _⟩
      split <;> decide
  simp only [dateText, List.forall_mem_append, List.forall_mem_cons]
  exact ⟨⟨hyear, by decide, isClockChar_padded 2 _⟩, by decide, isClockChar_padded 2 _⟩

theorem isClockChar_time (second nanos : Nat) : ∀ c ∈ timeText second nanos, IsClockChar c := by
  have hfraction : ∀ n, ∀ c ∈ fractionText n, IsClockChar c := by
    intro n
    unfold fractionText
    split
    · exact List.forall_mem_nil _
    · repeat' split
      all_goals exact List.forall_mem_cons.2 ⟨by decide, isClockChar_padded _ _⟩
  simp only [timeText, List.forall_mem_append, List.forall_mem_cons]
  exact ⟨⟨⟨isClockChar_padded 2 _, by decide, isClockChar_padded 2 _⟩, by decide,
    isClockChar_padded 2 _⟩, hfraction _⟩

/-- What an instant is written with. -/
theorem isClockChar_write (zone : Zone) (t : Instant) : ∀ c ∈ t.write zone, IsClockChar c := by
  have hzone : ∀ c ∈ zone.text, IsClockChar c := by
    cases zone with
    | zulu => exact List.forall_mem_singleton.2 (by decide)
    | offset m =>
      simp only [Zone.text, List.forall_mem_append, List.forall_mem_cons]
      refine ⟨⟨?_, isClockChar_padded 2 _⟩, by decide, isClockChar_padded 2 _⟩
      split <;> decide
  simp only [write, List.forall_mem_append, List.forall_mem_cons]
  exact ⟨⟨isClockChar_date _, by decide, isClockChar_time _ _⟩, hzone⟩

end Instant

namespace Report

variable {r : Report}

/-- The report without the bare number of seconds. -/
def summary (r : Report) : Summary := ⟨r.human, r.millis, r.boot, r.sampledAt⟩

/-- The three lines, without the breaks that end them. -/
theorem split_lines (h : '\n' ∉ r.human.toList) : split '\n' r.lines.toList =
    ["Uptime:    ".toList ++ (r.human.toList ++
        ' ' :: '(' :: (Numeral.ofInt r.millis.toInt ++ " ms)".toList)),
      "Boot time: ".toList ++ Numeral.ofInt r.boot.toInt,
      "Sampled:   ".toList ++ r.sampledAt.write (.offset 0), []] := by
  have hinteger : ∀ i : Int, '\n' ∉ Numeral.ofInt i := Numeral.not_mem_ofInt (by decide) rfl
  have hinstant : '\n' ∉ r.sampledAt.write (.offset 0) := fun hmem =>
    absurd (Instant.isClockChar_write _ _ _ hmem) (by decide)
  have htext : r.lines.toList =
      "Uptime:    ".toList ++ (r.human.toList ++
        ' ' :: '(' :: (Numeral.ofInt r.millis.toInt ++ " ms)".toList)) ++ '\n' ::
      ("Boot time: ".toList ++ Numeral.ofInt r.boot.toInt ++ '\n' ::
      ("Sampled:   ".toList ++ r.sampledAt.write (.offset 0) ++ '\n' :: [])) := by
    have hopen : " (".toList = [' ', '('] := rfl
    have hclose : " ms)\n".toList = " ms)".toList ++ ['\n'] := rfl
    have hbreak : "\n".toList = ['\n'] := rfl
    unfold lines
    simp only [Numeral.intText, Instant.text, String.toList_append, String.toList_ofList, hopen,
      hclose, hbreak, List.append_assoc, List.cons_append, List.nil_append]
  rw [htext, split_append_cons, split_append_cons, split_append_cons]
  · rfl
  · simp [hinstant]
  · simp [hinteger]
  · simp [hinteger, h]

theorem integer?_ofInt {ending : List Char} (h : Json.Number.Ends ending) (i : Int64) :
    Summary.integer? ending (Numeral.ofInt i.toInt ++ ending) = some i := by
  unfold Summary.integer?
  rw [Json.readInteger_ofInt i h]
  exact if_pos rfl

/-- The lines tell a report whose words have neither a bracket nor a line break in them. -/
theorem ofLines?_lines (hbreak : '\n' ∉ r.human.toList) (hbracket : '(' ∉ r.human.toList) :
    Summary.ofLines? r.lines.toList = some r.told.summary := by
  have hlabel : ∀ label s : List Char, (label ++ s).dropPrefix? label = some s := fun label s =>
    List.dropPrefix?_append_of_beq s (beq_self_eq_true label)
  have hwords : (r.human.toList ++ [' ']).dropSuffix? [' '] = some r.human.toList :=
    List.dropSuffix?_eq_some_iff.2 ⟨[' '], rfl, rfl⟩
  have hparts : split '(' (r.human.toList ++
      ' ' :: '(' :: (Numeral.ofInt r.millis.toInt ++ " ms)".toList)) =
        [r.human.toList ++ [' '], Numeral.ofInt r.millis.toInt ++ " ms)".toList] := by
    have hwhole : r.human.toList ++ ' ' :: '(' :: (Numeral.ofInt r.millis.toInt ++ " ms)".toList) =
        r.human.toList ++ [' '] ++ '(' :: (Numeral.ofInt r.millis.toInt ++ " ms)".toList) := by simp
    rw [hwhole, split_append_cons (by simp [hbracket]), split_of_not_mem]
    intro hmem
    rcases List.mem_append.1 hmem with hnumber | hend
    · exact Numeral.not_mem_ofInt (by decide) rfl _ hnumber
    · exact absurd hend (by decide +kernel)
  have hmillis := integer?_ofInt (show Json.Number.Ends " ms)".toList by decide) r.millis
  have hboot := integer?_ofInt (show Json.Number.Ends [] from trivial) r.boot
  rw [List.append_nil] at hboot
  have hread := r.sampledAt.read_write (.inr rfl : Instant.Zone.Universal (.offset 0))
  simp only [Summary.ofLines?, split_lines hbreak, hlabel, Summary.uptime?, hparts, hwords, hmillis,
    hboot, hread, bind, Option.bind, Except.toOption, pure, String.ofList_toList, told, summary]

end Report

/-! ## Printed reports -/

namespace Query

variable {d : Device} {r : Report}

theorem human_of_report (h : (report.run d).value = .ok r) : ∃ u : Uptime, r.human = u.human := by
  rw [run_report] at h
  cases hs : sampleOf d.now d.kernel.bootTime with
  | error f =>
    rw [hs] at h
    cases h
  | ok s =>
    rw [hs] at h
    cases h
    exact ⟨s.uptime, rfl⟩

/-- A device's report is told as it is, unless its clock is in a leap second elsewhere than at the end
of a minute. -/
theorem told_of_report (h : (report.run d).value = .ok r) (hnow : d.now.Regular) : r.told = r :=
  Report.told_eq_self_iff.2 (sampledAt_of_report h ▸ hnow)

end Query

namespace Program

/-- The text tells the report: it is read back from it as from a text of that format. -/
def Tells (r : Report) (text : String) : Format → Prop
  | .text => Summary.ofLines? text.toList = some r.told.summary
  | .json => Report.ofJson text.toList = .ok r.told

/-- What is printed of a device's report tells it. -/
theorem tells_shown {d : Device} {r : Report} (h : (Query.report.run d).value = .ok r)
    (format : Format) : Tells r (shown r format) format := by
  cases format with
  | text =>
    obtain ⟨u, hu⟩ := Query.human_of_report h
    have hword : ∀ c ∈ r.human.toList, c.isDigit = true ∨ c.isLower = true ∨ c = ' ' ∨ c = ',' := by
      rw [hu, Uptime.human, String.toList_ofList]
      exact fun c => Uptime.mem_writeSeconds
    exact Report.ofLines?_lines (fun hmem => absurd (hword _ hmem) (by decide))
      fun hmem => absurd (hword _ hmem) (by decide)
  | json =>
    rw [Tells, shown, Report.prettyJson, String.toList_append, String.toList_ofList,
      ← Report.Spacing.written_lines]
    exact Report.ofJson_written_append .lines r (by decide)

end Program

end BootClock
