import BootClock.Proofs.Invocation
/-!
# Which command lines are understood

A command line is put together from a path of the settings, a command with a format, and the mark of
the end, each of the three as `GivesPath`, `GivesCommand` and `isEnd` have it. Those that are
understood are the ones that `Asks` describes with a path that is not empty (`read?_eq_some_iff`), and
what is read of them is what they ask for.
-/

namespace BootClock

namespace CommandLine

/-- What stands in front of the command, and the path of the settings that it gives. -/
inductive GivesPath : List String → Option String → Prop where
  | nothing : GivesPath [] none
  | apart (path : String) : isValue path = true → path ≠ "" → GivesPath ["--config", path] (some path)
  | attached (path : String) : path ≠ "" → GivesPath ["--config=" ++ path] (some path)

/-- The options that a format follows in an argument of its own. -/
def apartOptions : List String := ["--format", "-f"]

/-- The options that a format follows in the same argument. -/
def attachedOptions : List String := ["--format=", "-f=", "-f"]

/-- What stands behind the command, and the format that it gives. -/
inductive GivesFormat : List String → Option Format → Prop where
  | nothing : GivesFormat [] none
  | apart (option : String) (f : Format) : option ∈ apartOptions →
      GivesFormat [option, f.name] (some f)
  | attached (option : String) (f : Format) : option ∈ attachedOptions →
      GivesFormat [option ++ f.name] (some f)

/-- A command with what stands behind it. -/
inductive GivesCommand : List String → Command → Prop where
  | millis : GivesCommand ["millis"] .millis
  | info (back : List String) (format : Option Format) : GivesFormat back format →
      GivesCommand ("info" :: back) (.info format)
  | bootTime : GivesCommand ["boot-time"] .bootTime

/-- The arguments ask for the command, and for the settings under the path. -/
def Asks (args : List String) (path : Option String) (c : Command) : Prop :=
  ∃ front middle tail, GivesPath front path ∧ GivesCommand middle c ∧ isEnd tail = true ∧
    args = front ++ (middle ++ tail)

variable {args front back middle tail rest : List String} {path named : Option String}
  {format : Option Format} {c : Command} {f : Format}

/-! ## Commands -/

theorem valueAfter?_eq_some_iff {word s v : String} :
    valueAfter? word s = some v ↔ s = word ++ v := by
  unfold valueAfter?
  rw [← String.length_toList]
  constructor
  · intro h
    split at h
    · next hprefix =>
      obtain ⟨t, ht⟩ := List.isPrefixOf_iff_prefix.1 hprefix
      obtain rfl := Option.some.inj h
      rw [← ht, List.drop_left, ← String.toList_inj, String.toList_append, String.toList_ofList, ht]
    · cases h
  · rintro rfl
    rw [String.toList_append, if_pos (List.isPrefixOf_iff_prefix.2 (List.prefix_append _ _)),
      List.drop_left, String.ofList_toList]

/-- The format that one argument names after its option. -/
theorem attached_of_bind {arg : String}
    (h : (attachedFormat? arg).bind Format.ofName? = some f) :
    ∃ option ∈ attachedOptions, arg = option ++ f.name := by
  obtain ⟨name, hname, hf⟩ := Option.bind_eq_some_iff.1 h
  obtain rfl := Format.ofName?_eq_some_iff.1 hf
  simp only [attachedFormat?, Option.or_eq_some_iff, valueAfter?_eq_some_iff] at hname
  rcases hname with (hlong | ⟨-, hequals⟩) | ⟨-, hshort⟩
  · exact ⟨_, by decide, hlong⟩
  · exact ⟨_, by decide, hequals⟩
  · exact ⟨_, by decide, hshort⟩

/-- There are few ways to end a command line, so they are all tried. -/
theorem format?_append (hback : GivesFormat back format) (hend : isEnd tail = true) :
    format? (back ++ tail) = some format := by
  have htail : tail ∈ [[], ["--"]] := by
    unfold isEnd at hend
    split at hend <;> simp_all
  have hformat : ∀ f : Format, f ∈ [Format.text, .json] := fun f => by cases f <;> decide
  cases hback with
  | nothing =>
    have hall : ∀ tail ∈ [[], ["--"]], format? ([] ++ tail) = some none := by decide
    exact hall tail htail
  | apart option f hoption =>
    have hall : ∀ option ∈ apartOptions, ∀ f ∈ [Format.text, .json], ∀ tail ∈ [[], ["--"]],
        format? ([option, f.name] ++ tail) = some (some f) := by decide +kernel
    exact hall option hoption f (hformat f) tail htail
  | attached option f hoption =>
    have hall : ∀ option ∈ attachedOptions, ∀ f ∈ [Format.text, .json],
        ∀ tail ∈ [[], ["--"]], format? ([option ++ f.name] ++ tail) = some (some f) := by
      decide +kernel
    exact hall option hoption f (hformat f) tail htail

theorem format?_eq_some_iff : format? args = some format ↔
    ∃ back tail, GivesFormat back format ∧ isEnd tail = true ∧ args = back ++ tail := by
  constructor
  · intro h
    by_cases hnothing : isEnd args = true
    · unfold format? at h
      rw [if_pos hnothing] at h
      obtain rfl := Option.some.inj h
      exact ⟨[], args, .nothing, hnothing, rfl⟩
    · cases args with
      | nil => exact absurd rfl hnothing
      | cons option rest =>
        simp only [format?, if_neg hnothing] at h
        split at h
        · next hoption =>
          cases rest with
          | nil => cases h
          | cons value tail =>
            simp only [Option.ite_none_right_eq_some] at h
            obtain ⟨hend, hvalue⟩ := h
            obtain ⟨f, hf, rfl⟩ := Option.map_eq_some_iff.1 hvalue
            obtain rfl := Format.ofName?_eq_some_iff.1 hf
            exact ⟨_, tail, .apart option f (by simpa [apartOptions] using hoption), hend, rfl⟩
        · simp only [Option.ite_none_right_eq_some] at h
          obtain ⟨hend, hvalue⟩ := h
          obtain ⟨f, hf, rfl⟩ := Option.map_eq_some_iff.1 hvalue
          obtain ⟨option, hmem, rfl⟩ := attached_of_bind hf
          exact ⟨_, rest, .attached option f hmem, hend, rfl⟩
  · rintro ⟨back, tail, hback, hend, rfl⟩
    exact format?_append hback hend

theorem command?_append (hmiddle : GivesCommand middle c) (hend : isEnd tail = true) :
    command? (middle ++ tail) = some c := by
  cases hmiddle with
  | millis => exact if_pos hend
  | bootTime => exact if_pos hend
  | info back format hback =>
    simp only [List.cons_append, command?, format?_append hback hend, Option.map_some]

theorem command?_eq_some_iff : command? args = some c ↔
    ∃ middle tail, GivesCommand middle c ∧ isEnd tail = true ∧ args = middle ++ tail := by
  constructor
  · intro h
    unfold command? at h
    split at h
    · next tail =>
      obtain ⟨hend, hc⟩ := Option.ite_none_right_eq_some.1 h
      obtain rfl := Option.some.inj hc
      exact ⟨_, tail, .millis, hend, rfl⟩
    · next tail =>
      obtain ⟨hend, hc⟩ := Option.ite_none_right_eq_some.1 h
      obtain rfl := Option.some.inj hc
      exact ⟨_, tail, .bootTime, hend, rfl⟩
    · next args =>
      obtain ⟨format, hformat, rfl⟩ := Option.map_eq_some_iff.1 h
      obtain ⟨back, tail, hback, hend, rfl⟩ := format?_eq_some_iff.1 hformat
      exact ⟨_, tail, .info back format hback, hend, rfl⟩
    · cases h
  · rintro ⟨middle, tail, hmiddle, hend, rfl⟩
    exact command?_append hmiddle hend

/-! ## Paths of the settings -/

/-- A path that is given is not empty. -/
theorem GivesPath.ne_empty (h : GivesPath front path) : path ≠ some "" := by
  cases h with
  | nothing => nofun
  | apart path _ hne | attached path hne => exact fun heq => hne (Option.some.inj heq)

/-- A path that is given is taken off the front of any command. -/
theorem settingsPath?_append (hfront : GivesPath front path)
    (hc : command? rest = some c) : settingsPath? (front ++ rest) = some (path, rest) := by
  cases hfront with
  | nothing => exact settingsPath?_of_command hc
  | apart path hvalue hne => exact (settingsPath?_config hvalue).trans (if_neg hne)
  | attached path hne =>
    have hvalue : valueAfter? "--config=" ("--config=" ++ path) = some path :=
      valueAfter?_eq_some_iff.2 rfl
    have hshort : valueAfter? "--config=" "--config" = none := by decide +kernel
    have hlong : "--config=" ++ path ≠ "--config" := fun heq => by
      rw [heq, hshort] at hvalue
      cases hvalue
    simp only [List.singleton_append, settingsPath?, if_neg hlong, hvalue, if_neg hne]

theorem givesPath_of_settingsPath? (h : settingsPath? args = some (path, rest)) :
    ∃ front, GivesPath front path ∧ args = front ++ rest := by
  unfold settingsPath? at h
  split at h
  · cases h
  · next arg args' =>
    split at h
    · next harg =>
      split at h
      · cases h
      · next given args'' =>
        split at h
        · next hgiven =>
          cases h
          exact ⟨_, .apart given hgiven.1 hgiven.2, by rw [harg]; rfl⟩
        · cases h
    · split at h
      · next given hgiven =>
        split at h
        · cases h
        · next hne =>
          cases h
          exact ⟨_, .attached given hne, by rw [valueAfter?_eq_some_iff.1 hgiven]; rfl⟩
      · cases h
        exact ⟨[], .nothing, rfl⟩

/-- **What is understood:** a command line that asks for a command, unless the path that holds is
empty. A path that is given goes before one that is named. -/
theorem read?_eq_some_iff : read? named args = some ⟨c, path⟩ ↔
    ∃ given, Asks args given c ∧ path = given.or named ∧ path ≠ some "" := by
  constructor
  · intro h
    simp only [read?, Option.bind_eq_bind, Option.bind_eq_some_iff, Prod.exists] at h
    obtain ⟨given, rest, hgiven, command, hcommand, h⟩ := h
    split at h
    · cases h
    · next hempty =>
      cases h
      obtain ⟨front, hfront, rfl⟩ := givesPath_of_settingsPath? hgiven
      obtain ⟨middle, tail, hmiddle, hend, rfl⟩ := command?_eq_some_iff.1 hcommand
      refine ⟨given, ⟨front, middle, tail, hfront, hmiddle, hend, rfl⟩, rfl, ?_⟩
      cases given with
      | none => exact fun heq => hempty ⟨rfl, heq⟩
      | some p => exact hfront.ne_empty
  · rintro ⟨given, ⟨front, middle, tail, hfront, hmiddle, hend, rfl⟩, rfl, hne⟩
    have hcommand := command?_append hmiddle hend
    have hholds : ¬ (given = none ∧ named = some "") := by
      rintro ⟨rfl, rfl⟩
      exact hne rfl
    simp only [read?, settingsPath?_append hfront hcommand, hcommand, Option.bind_eq_bind,
      Option.bind_some, if_neg hholds]
    rfl

end CommandLine

end BootClock
