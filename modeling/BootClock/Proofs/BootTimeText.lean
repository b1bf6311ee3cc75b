import BootClock.Proofs.ReportText
/-!
# Which texts are boot times

Only a numeral without sign, point and exponent is read as a positive integer, and of such a numeral
no digit is left out (`read?_eq_integer_iff`): every other way through the reader of numbers ends in
a floating-point number or in an integer that is not positive. A text is therefore a boot time
exactly if it is a plain numeral with white space around it and its number is a positive 64-bit
count (`ofJson_iff_plain`).
-/

namespace BootClock

/-- The digits write the number in decimal: there is no sign, and only the zero itself starts with a
zero. -/
structure Numeral.Writes (digits : List Char) (n : Nat) : Prop where
  ne_nil : digits ≠ []
  isDigit : ∀ c ∈ digits, c.isDigit = true
  no_leading_zero : ¬ (digits.head? = some '0' ∧ 1 < digits.length)
  value_eq : value digits = n

theorem Numeral.writes_ofNat (n : Nat) : Writes (ofNat n) n :=
  ⟨ofNat_ne_nil n, fun _ => isDigit_of_mem_ofNat, not_leading_zero n, value_ofNat n⟩

namespace Json

/-- The text is a decimal numeral with white space around it. -/
def IsPlain (s : List Char) (n : Nat) : Prop :=
  ∃ lead digits tail, s = lead ++ (digits ++ tail) ∧ lead.all isSpace = true ∧
    Numeral.Writes digits n ∧ tail.all isSpace = true

namespace Number

variable {s rest ds : List Char} {negative : Bool} {n dropped : Nat} {i : Int}

/-! ## Numbers that are no integers -/

theorem eq_float_of_scale? {exponent : Int} {x : Number} (h : scale? negative n exponent = some x) :
    ∃ y, x = .float y := by
  simp only [scale?, Option.ite_none_right_eq_some] at h
  exact ⟨_, (Option.some.inj h.2).symm⟩

/-- A number whose scale was looked at is no integer, even if there was no exponent. -/
theorem eq_float_of_withExponent? {exponent : Int} {x : Number}
    (h : withExponent? negative n exponent s = some (x, rest)) : ∃ y, x = .float y := by
  have hscaled : ∀ {exponent : Int} {t : List Char},
      (scale? negative n exponent).bind (fun x => some (x, t)) = some (x, rest) →
        ∃ y, x = .float y := by
    intro exponent t h
    obtain ⟨x', hx, hpair⟩ := Option.bind_eq_some_iff.1 h
    cases hpair
    exact eq_float_of_scale? hx
  cases s with
  | nil => exact hscaled h
  | cons c s =>
    simp only [withExponent?] at h
    split at h
    · split at h
      · cases h
      · split at h
        · split at h
          · cases h
          · cases h
            exact ⟨_, rfl⟩
        · exact hscaled h
    · exact hscaled h

/-! ## Numbers that are -/

/-- After digits only the end of the numeral makes an integer, and only if all digits were used. -/
theorem of_afterDigits?_eq_integer
    (h : afterDigits? negative n dropped s = some (.integer i, rest)) :
    dropped = 0 ∧ rest = s ∧ i = if negative then -(n : Int) else n := by
  unfold afterDigits? at h
  split at h
  · simp only [Option.ite_none_left_eq_some] at h
    obtain ⟨y, hy⟩ := eq_float_of_withExponent? h.2
    cases hy
  · split at h
    · obtain ⟨y, hy⟩ := eq_float_of_withExponent? h
      cases hy
    · next hend =>
      have hused : dropped = 0 := Decidable.byContradiction fun hne => hend (.inl hne)
      split at h
      · next hsign =>
        cases h
        exact ⟨hused, rfl, (if_neg hsign).symm⟩
      · next hsign =>
        split at h
        · cases h
          exact ⟨hused, rfl, (if_pos (Decidable.not_not.1 hsign)).symm⟩
        · cases h

/-- The number of digits of which none was left out is the number they write. -/
theorem absorb_of_length_le (h : ds.length ≤ (absorb n ds).2) :
    (absorb n ds).1 = Nat.ofDigitChars 10 ds n := by
  induction ds generalizing n with
  | nil => rfl
  | cons c ds ih =>
    rw [Nat.ofDigitChars_cons, Nat.mul_comm]
    simp only [absorb] at h ⊢
    split at h
    · simp at h
    · next hfits =>
      rw [if_neg hfits]
      exact ih (Nat.le_of_succ_le_succ h)

theorem of_magnitude?_eq_integer (h : magnitude? negative s = some (.integer i, rest)) :
    ∃ ds n, s = ds ++ rest ∧ Numeral.Writes ds n ∧ i = if negative then -(n : Int) else n := by
  simp only [magnitude?, Option.ite_none_left_eq_some] at h
  obtain ⟨hform, h⟩ := h
  rw [not_or] at hform
  obtain ⟨hdropped, rfl, hi⟩ := of_afterDigits?_eq_integer h
  have hvalue := absorb_of_length_le (Nat.le_of_sub_eq_zero hdropped)
  refine ⟨s.takeWhile Char.isDigit, _, (List.takeWhile_append_dropWhile).symm, ?_, hi⟩
  exact ⟨by simpa using hform.1, List.all_eq_true.1 List.all_takeWhile, hform.2, hvalue.symm⟩

/-- **Positive integers** are read from plain numerals alone. -/
theorem read?_eq_integer_iff {n : Nat} (hpos : 0 < n) (hfits : n ≤ 18446744073709551615)
    (hrest : Ends rest) : read? s = some (.integer n, rest) ↔
      ∃ ds, s = ds ++ rest ∧ Numeral.Writes ds n := by
  constructor
  · intro h
    unfold read? at h
    split at h
    · -- behind a sign no integer is positive
      obtain ⟨ds, m, -, -, hm⟩ := of_magnitude?_eq_integer h
      simp only [if_true] at hm
      omega
    · obtain ⟨ds, m, rfl, hwrites, hm⟩ := of_magnitude?_eq_integer h
      simp only [Bool.false_eq_true, if_false, Int.natCast_inj] at hm
      exact ⟨ds, rfl, hm ▸ hwrites⟩
  · rintro ⟨ds, rfl, hwrites⟩
    obtain ⟨hne, hdigits, hzero, rfl⟩ := hwrites
    rw [read?_append hne hdigits, magnitude?_append false hne hdigits hzero hfits hrest,
      afterDigits?_of_ends _ _ hrest, if_pos (by decide)]

end Number

/-! ## Whole texts -/

variable {s rest : List Char}

theorem whole_eq_ok_iff {α : Type} {a : α} {r : Except Fault (α × List Char)} :
    whole r = .ok a ↔ ∃ rest, r = .ok (a, rest) ∧ rest.all isSpace = true := by
  simp only [← atEnd_iff]
  cases r with
  | error f => simp [whole]
  | ok p =>
    obtain ⟨a', rest⟩ := p
    simp only [whole, Except.ok.injEq, Prod.mk.injEq]
    constructor
    · intro h
      split at h
      · next hend =>
        cases h
        exact ⟨rest, ⟨rfl, rfl⟩, hend⟩
      · cases h
    · rintro ⟨rest, ⟨rfl, rfl⟩, hend⟩
      rw [if_pos hend]

/-- A positive integer is a plain numeral behind white space. -/
theorem readInteger_eq_ok_iff {i : Int64} (hpos : 0 < i.toInt) (hrest : Number.Ends rest) :
    readInteger s = .ok (i, rest) ↔ ∃ lead digits, s = lead ++ (digits ++ rest) ∧
      lead.all isSpace = true ∧ Numeral.Writes digits i.toInt.toNat := by
  have hnat : (i.toInt.toNat : Int) = i.toInt := Int.toNat_of_nonneg (Int.le_of_lt hpos)
  have hfits := (fits_toInt i).2
  have hread : ∀ t, Number.read? t = some (.integer i.toInt, rest) ↔
      ∃ ds, t = ds ++ rest ∧ Numeral.Writes ds i.toInt.toNat := by
    intro t
    rw [← hnat]
    exact Number.read?_eq_integer_iff (by omega) (by omega) hrest
  constructor
  · intro h
    simp only [readInteger] at h
    split at h
    · split at h
      · cases h
      · next n rest' hn =>
        split at h
        · next i' hi =>
          cases h
          obtain rfl := toInt_of_count? hi
          obtain ⟨ds, hds, hwrites⟩ := (hread _).1 hn
          refine ⟨s.takeWhile isSpace, ds, ?_, List.all_takeWhile, hwrites⟩
          rw [← hds, skipSpace, List.takeWhile_append_dropWhile]
        · cases h
      · cases h
    · cases h
  · rintro ⟨lead, ds, rfl, hlead, hwrites⟩
    obtain ⟨c, ds, rfl⟩ := List.exists_cons_of_ne_nil hwrites.ne_nil
    rw [readInteger_append hlead, List.cons_append]
    refine readInteger_of_read? (.inr (hwrites.isDigit c List.mem_cons_self)) ?_
    exact (hread _).2 ⟨c :: ds, rfl, hwrites⟩

end Json

namespace BootTime

open Json

variable {s : List Char} {b : BootTime}

/-- The integer is checked, and nothing but white space is left behind it. -/
theorem ofJson_eq_ok_iff : ofJson s = .ok b ↔
    ∃ rest, readInteger s = .ok (b.secs, rest) ∧ rest.all isSpace = true := by
  rw [ofJson, whole_eq_ok_iff]
  refine exists_congr fun rest => and_congr_left fun _ => ?_
  cases readInteger s with
  | error f => simp [bind, Except.bind]
  | ok p =>
    obtain ⟨n, rest'⟩ := p
    simp only [bind, Except.bind, Except.ok.injEq, Prod.mk.injEq]
    rw [eq_comm (a := n), ← ofSeconds_eq_ok_iff]
    cases ofSeconds n with
    | error f => simp [throw, throwThe, MonadExceptOf.throw]
    | ok b' => simp [pure, Except.pure]

/-- A text is a boot time exactly if it is a plain numeral of its seconds. -/
theorem ofJson_iff_plain : ofJson s = .ok b ↔ IsPlain s b.secs.toInt.toNat := by
  rw [ofJson_eq_ok_iff]
  constructor
  · rintro ⟨rest, hread, hspace⟩
    obtain ⟨lead, digits, rfl, hlead, hwrites⟩ :=
      (readInteger_eq_ok_iff b.pos (Number.ends_of_space hspace)).1 hread
    exact ⟨lead, digits, rest, rfl, hlead, hwrites, hspace⟩
  · rintro ⟨lead, digits, rest, rfl, hlead, hwrites, hspace⟩
    have hread := readInteger_eq_ok_iff (s := lead ++ (digits ++ rest)) b.pos
      (Number.ends_of_space hspace)
    exact ⟨rest, hread.2 ⟨lead, digits, rfl, hlead, hwrites⟩, hspace⟩

/-- A positive count of seconds is a boot time. -/
theorem exists_of_count {n : Nat} (hpos : 1 ≤ n) (hlast : n ≤ 9223372036854775807) :
    ∃ b : BootTime, b.secs.toInt = n := by
  have hcount : (clamp n).toInt = n := toInt_clamp_of_fits ⟨by omega, by omega⟩
  exact ⟨⟨clamp n, by omega⟩, hcount⟩

theorem isPlain_json (b : BootTime) : IsPlain b.json.toList b.secs.toInt.toNat := by
  have hpos := b.pos
  have habs : b.secs.toInt.natAbs = b.secs.toInt.toNat := by omega
  refine ⟨[], _, [], ?_, rfl, Numeral.writes_ofNat b.secs.toInt.toNat, rfl⟩
  rw [json, Numeral.intText, String.toList_ofList, Numeral.ofInt, if_neg (by omega), habs,
    List.nil_append, List.append_nil]

/-- **The texts of boot times** are the plain numerals from 1 to the last 64-bit count, with white
space around them, and each stands for the number it writes. Among them is the text of every boot
time, and none stands for seconds that a kernel's answer could not be. -/
theorem accepted_iff_plain :
    (∀ s b, ofJson s = .ok b ↔
      ∃ n, IsPlain s n ∧ 1 ≤ n ∧ n ≤ 9223372036854775807 ∧ b.secs.toInt = n) ∧
    (∀ s, (∃ b, ofJson s = .ok b) ↔ ∃ n, IsPlain s n ∧ 1 ≤ n ∧ n ≤ 9223372036854775807) ∧
    (∀ b, ofJson b.json.toList = .ok b) ∧
    (∀ s b, ofJson s = .ok b → ofSeconds b.secs = .ok b) := by
  have hvalue : ∀ s b, ofJson s = .ok b ↔
      ∃ n, IsPlain s n ∧ 1 ≤ n ∧ n ≤ 9223372036854775807 ∧ b.secs.toInt = n := by
    intro s b
    have hpos := b.pos
    have hlast := (fits_toInt b.secs).2
    rw [ofJson_iff_plain]
    constructor
    · intro hplain
      exact ⟨_, hplain, by omega, by omega, by omega⟩
    · rintro ⟨n, hplain, -, -, hn⟩
      rwa [hn, Int.toNat_natCast]
  refine ⟨hvalue, fun s => ?_, fun b => ofJson_iff_plain.2 b.isPlain_json,
    fun s b _ => ofSeconds_eq_ok_iff.2 rfl⟩
  constructor
  · rintro ⟨b, hb⟩
    obtain ⟨n, hplain, hpos, hlast, -⟩ := (hvalue s b).1 hb
    exact ⟨n, hplain, hpos, hlast⟩
  · rintro ⟨n, hplain, hpos, hlast⟩
    obtain ⟨b, hb⟩ := exists_of_count hpos hlast
    exact ⟨b, (hvalue s b).2 ⟨n, hplain, hpos, hlast, hb⟩⟩

end BootTime

end BootClock
