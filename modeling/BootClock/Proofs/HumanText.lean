import BootClock.Proofs.Digits
import BootClock.Text.Split
import BootClock.Uptime
import Mathlib.Algebra.GroupWithZero.Nat
/-!
# Nothing is lost in words

The words of a number of seconds are its counts of days, hours, minutes and seconds, each unit at
most once and the longest first (`Tells`), and the counts add up to the number. A part can be told
from whatever follows it (`write_append_inj`): its digits end at the blank, its unit at the first
letter, and the count says whether the unit has an ending. So equal words are equal parts
(`intercalate_write_inj`), and those of equal numbers.
-/

namespace BootClock.Uptime

namespace TimeUnit

/-- The units, the longest first. -/
def all : List TimeUnit := [day, hour, minute, second]

/-- How many of a unit make one of the next longer. -/
def limit? : TimeUnit → Option Nat
  | day => none
  | hour => some 24
  | minute => some 60
  | second => some 60

/-- The word for one of a unit or for another number of them. -/
def word (count : Nat) : TimeUnit → String
  | day => if count = 1 then "day" else "days"
  | hour => if count = 1 then "hour" else "hours"
  | minute => if count = 1 then "minute" else "minutes"
  | second => if count = 1 then "second" else "seconds"

/-- Only the number one has no ending. -/
theorem toList_word (count : Nat) (u : TimeUnit) :
    (u.word count).toList = u.name ++ if count = 1 then [] else ['s'] := by
  by_cases hone : count = 1
  · cases u <;> simp [word, name, hone]
  · cases u <;> simp [word, name, hone]

end TimeUnit

/-- The parts tell a number of seconds. -/
structure Tells (ps : List Part) (secs : Nat) : Prop where
  ne_nil : ps ≠ []
  /-- The longest unit comes first, and none comes twice. -/
  ordered : (ps.map Part.unit).Sublist TimeUnit.all
  /-- A unit that there is none of is left out, unless there is nothing to tell. -/
  counted : if secs = 0 then ps = [⟨0, .second⟩] else ∀ p ∈ ps, p.count ≠ 0
  below : ∀ p ∈ ps, ∀ limit, p.unit.limit? = some limit → p.count < limit
  sum_eq : (ps.map fun p => p.count * p.unit.length).sum = secs

/-! ## Parts -/

/-- Parts that count nothing add nothing. -/
theorem sum_filter_count (ps : List Part) :
    ((ps.filter fun p => p.count ≠ 0).map fun p => p.count * p.unit.length).sum =
      (ps.map fun p => p.count * p.unit.length).sum := by
  induction ps with
  | nil => rfl
  | cons p ps ih =>
    by_cases hzero : p.count = 0
    · simpa [hzero] using ih
    · simpa [hzero] using ih

theorem parts_of_ne_zero {secs : Nat} (h : secs ≠ 0) :
    parts secs = [⟨secs / 86400, .day⟩, ⟨secs % 86400 / 3600, .hour⟩, ⟨secs % 3600 / 60, .minute⟩,
      ⟨secs % 60, .second⟩].filter fun p => p.count ≠ 0 := if_neg h

theorem sum_parts (secs : Nat) :
    ((parts secs).map fun p => p.count * p.unit.length).sum = secs := by
  by_cases hzero : secs = 0
  · subst hzero
    rfl
  · rw [parts_of_ne_zero hzero, sum_filter_count]
    simp only [List.map_cons, List.map_nil, List.sum_cons, List.sum_nil, TimeUnit.length]
    omega

theorem tells_parts (secs : Nat) : Tells (parts secs) secs := by
  have hsum := sum_parts secs
  by_cases hzero : secs = 0
  · subst hzero
    exact ⟨by decide, by decide, rfl, by decide, hsum⟩
  · rw [parts_of_ne_zero hzero] at hsum ⊢
    refine ⟨?_, ?_, ?_, ?_, hsum⟩
    · intro hnil
      rw [hnil] at hsum
      exact hzero hsum.symm
    · exact List.filter_sublist.map Part.unit
    · rw [if_neg hzero]
      intro p hp
      exact of_decide_eq_true (List.mem_filter.1 hp).2
    · intro p hp limit hlimit
      have hmem := (List.mem_filter.1 hp).1
      simp only [List.mem_cons, List.not_mem_nil, or_false] at hmem
      rcases hmem with rfl | rfl | rfl | rfl
      all_goals cases hlimit
      all_goals dsimp only
      all_goals omega

/-! ## Words -/

theorem write_eq (p : Part) : p.write =
    Numeral.ofNat p.count ++ ' ' :: (p.unit.name ++ if p.count = 1 then [] else ['s']) := by
  simp [Part.write]

/-- The word of a part is the unit's name, with an ending unless there is one of it. -/
theorem exists_word (p : Part) : ∃ word, p.write = Numeral.ofNat p.count ++ ' ' :: word ∧
    word = (p.unit.word p.count).toList ∧
    (word = p.unit.name ↔ p.count = 1) ∧ (word = p.unit.name ++ ['s'] ↔ p.count ≠ 1) := by
  refine ⟨_, write_eq p, (p.unit.toList_word p.count).symm, ?_⟩
  by_cases hone : p.count = 1
  · simp [hone]
  · simp [hone]

/-- Units differ in their first letters. -/
theorem unit_of_name_append {u v : TimeUnit} {s t : List Char} (h : u.name ++ s = v.name ++ t) :
    u = v := by
  cases u <;> cases v <;> first | rfl | (simp [TimeUnit.name] at h)

/-- A part is told from what follows it. -/
theorem write_append_inj {p q : Part} {s t : List Char} (h : p.write ++ s = q.write ++ t) :
    p = q ∧ s = t := by
  have hdigits : ∀ (n : Nat) (w : List Char),
      (Numeral.ofNat n ++ ' ' :: w).takeWhile Char.isDigit = Numeral.ofNat n := fun n w =>
    Numeral.takeWhile_isDigit_append (fun _ => Numeral.isDigit_of_mem_ofNat) rfl
  simp only [write_eq, List.append_assoc, List.cons_append] at h
  -- the digits give the count, the letter behind the blank the unit, and both what follows
  have hnumeral := congrArg (List.takeWhile Char.isDigit) h
  rw [hdigits, hdigits] at hnumeral
  have hcount : p.count = q.count := by
    have hvalue := congrArg Numeral.value hnumeral
    rwa [Numeral.value_ofNat, Numeral.value_ofNat] at hvalue
  rw [hcount] at h
  have hword := (List.cons.inj (List.append_cancel_left h)).2
  have hunit := unit_of_name_append hword
  rw [hunit] at hword
  refine ⟨?_, List.append_cancel_left (List.append_cancel_left hword)⟩
  cases p
  cases q
  cases hcount
  cases hunit
  rfl

theorem write_ne_nil (p : Part) : p.write ≠ [] := by simp [write_eq]

/-- A comma and a blank stand in front of every part but the first. -/
theorem intercalate_write_cons (p : Part) (ps : List Part) :
    List.intercalate [',', ' '] ((p :: ps).map Part.write) =
      p.write ++ ps.flatMap fun q => ',' :: ' ' :: q.write := by
  induction ps generalizing p with
  | nil => simp
  | cons q ps ih =>
    rw [List.map_cons, List.map_cons, List.intercalate_cons_cons, ← List.map_cons, ih]
    simp

theorem flatMap_write_inj {ps qs : List Part}
    (h : (ps.flatMap fun p => ',' :: ' ' :: p.write) = qs.flatMap fun q => ',' :: ' ' :: q.write) :
    ps = qs := by
  induction ps generalizing qs with
  | nil =>
    cases qs with
    | nil => rfl
    | cons q qs => cases h
  | cons p ps ih =>
    cases qs with
    | nil => cases h
    | cons q qs =>
      simp only [List.flatMap_cons, List.cons_append, List.cons.injEq, true_and] at h
      obtain ⟨rfl, hrest⟩ := write_append_inj h
      rw [ih hrest]

/-- Parts with commas between them are told from each other. -/
theorem intercalate_write_inj {ps qs : List Part}
    (h : List.intercalate [',', ' '] (ps.map Part.write) =
      List.intercalate [',', ' '] (qs.map Part.write)) : ps = qs := by
  have hne : ∀ (p : Part) (ps : List Part),
      List.intercalate [',', ' '] ((p :: ps).map Part.write) ≠ [] := by
    intro p ps
    rw [intercalate_write_cons]
    exact List.append_ne_nil_of_left_ne_nil (write_ne_nil p) _
  cases ps with
  | nil =>
    cases qs with
    | nil => rfl
    | cons q qs => exact absurd h.symm (hne q qs)
  | cons p ps =>
    cases qs with
    | nil => exact absurd h (hne p ps)
    | cons q qs =>
      rw [intercalate_write_cons, intercalate_write_cons] at h
      obtain ⟨rfl, hrest⟩ := write_append_inj h
      rw [flatMap_write_inj hrest]

/-- The words of a number tell it from every other one. -/
theorem writeSeconds_inj {m n : Nat} (h : writeSeconds m = writeSeconds n) : m = n := by
  rw [← sum_parts m, intercalate_write_inj h, sum_parts]

theorem human_eq_iff {u v : Uptime} : u.human = v.human ↔ u.seconds = v.seconds := by
  have hu := u.toInt_seconds
  have hv := v.toInt_seconds
  have hu0 := u.nonneg
  have hv0 := v.nonneg
  constructor
  · intro h
    have hnat := writeSeconds_inj (String.ofList_injective h)
    exact Int64.toInt_inj.1 (by omega)
  · intro h
    rw [human, h, human]

/-- Words are made of digits, small letters, blanks and commas. -/
theorem mem_writeSeconds {secs : Nat} {c : Char} (h : c ∈ writeSeconds secs) :
    c.isDigit = true ∨ c.isLower = true ∨ c = ' ' ∨ c = ',' := by
  rcases mem_intercalate h with hsep | ⟨part, hpart, hmem⟩
  · simp only [List.mem_cons, List.not_mem_nil, or_false] at hsep
    rcases hsep with rfl | rfl
    · exact .inr (.inr (.inr rfl))
    · exact .inr (.inr (.inl rfl))
  · obtain ⟨p, -, rfl⟩ := List.mem_map.1 hpart
    rw [write_eq, List.mem_append, List.mem_cons, List.mem_append] at hmem
    rcases hmem with hdigit | rfl | hname | hending
    · exact .inl (Numeral.isDigit_of_mem_ofNat hdigit)
    · exact .inr (.inr (.inl rfl))
    · have hlower : ∀ u : TimeUnit, u.name.all Char.isLower = true := by
        intro u
        cases u <;> rfl
      exact .inr (.inl (List.all_eq_true.1 (hlower p.unit) c hname))
    · split at hending
      · cases hending
      · obtain rfl := List.mem_singleton.1 hending
        exact .inr (.inl rfl)

/-- **Nothing is lost in words.** Any number of seconds is told in one to four parts that add up to
it, the longest unit first, none of them twice and none without need; a part is its count and the
unit's word (`TimeUnit.word`), which has an ending unless the count is one. So uptimes have the same
words exactly if they have the same whole seconds. -/
theorem words_lossless :
    (∀ secs, writeSeconds secs = List.intercalate [',', ' '] ((parts secs).map Part.write) ∧
      Tells (parts secs) secs ∧ (parts secs).length ≤ 4 ∧
      ∀ p ∈ parts secs, ∃ word, p.write = Numeral.ofNat p.count ++ ' ' :: word ∧
        word = (p.unit.word p.count).toList ∧
        (word = p.unit.name ↔ p.count = 1) ∧ (word = p.unit.name ++ ['s'] ↔ p.count ≠ 1)) ∧
    (∀ u v : Uptime, u.human = v.human ↔ u.seconds = v.seconds) := by
  refine ⟨fun secs => ?_, fun u v => human_eq_iff⟩
  have htells := tells_parts secs
  have hlength := htells.ordered.length_le
  rw [List.length_map] at hlength
  exact ⟨rfl, htells, hlength, fun p _ => exists_word p⟩

end BootClock.Uptime
