import BootClock.Json.Value
import BootClock.Proofs.Digits
/-!
# Reading back a JSON integer

Digits are absorbed one after the other, none is left out as long as their number fits 64 bits
(`absorb_eq`), and a numeral that is followed by no point, exponent or digit is an integer
(`magnitude?_append`). So a written 64-bit integer is read back (`readInteger_ofInt`).
-/

namespace BootClock.Json

namespace Number

/-- The text does not go on with anything that belongs to a number. -/
def Ends : List Char → Prop
  | [] => True
  | c :: _ => c.isDigit = false ∧ c ≠ '.' ∧ c ≠ 'e' ∧ c ≠ 'E'

instance : (s : List Char) → Decidable (Ends s)
  | [] => isTrue trivial
  | _ :: _ => inferInstanceAs (Decidable (_ ∧ _))

variable {ds s : List Char} {n : Nat}

theorem Ends.digits (h : Ends s) : Numeral.Ends s := by
  cases s with
  | nil => trivial
  | cons c s => exact h.1

/-! ## Digits -/

theorem le_ofDigitChars (n : Nat) (ds : List Char) : n ≤ Nat.ofDigitChars 10 ds n := by
  induction ds generalizing n with
  | nil => exact Nat.le_refl n
  | cons c ds ih =>
    rw [Nat.ofDigitChars_cons]
    exact Nat.le_trans (by omega) (ih _)

/-- Digits whose number fits 64 bits are absorbed to the last. -/
theorem absorb_eq (h : Nat.ofDigitChars 10 ds n ≤ 18446744073709551615) :
    absorb n ds = (Nat.ofDigitChars 10 ds n, ds.length) := by
  induction ds generalizing n with
  | nil => rfl
  | cons c ds ih =>
    rw [Nat.ofDigitChars_cons, Nat.mul_comm] at h ⊢
    have hle := le_ofDigitChars (n * 10 + (c.toNat - '0'.toNat)) ds
    simp only [absorb, ih h, if_neg (Nat.not_lt.2 (Nat.le_trans hle h)), List.length_cons]

theorem magnitude?_append (negative : Bool) (hne : ds ≠ []) (hd : ∀ c ∈ ds, c.isDigit = true)
    (hzero : ¬ (ds.head? = some '0' ∧ 1 < ds.length))
    (hfits : Numeral.value ds ≤ 18446744073709551615) (hs : Ends s) :
    magnitude? negative (ds ++ s) = afterDigits? negative (Numeral.value ds) 0 s := by
  have hempty : ds.isEmpty = false := by simpa using hne
  simp only [magnitude?, Numeral.takeWhile_isDigit_append hd hs.digits,
    Numeral.dropWhile_isDigit_append hd hs.digits, absorb_eq hfits, Nat.sub_self, hempty,
    Bool.false_eq_true, hzero, or_self, if_false]
  rfl

/-! ## Integers -/

theorem afterDigits?_of_ends (negative : Bool) (n : Nat) (hs : Ends s) :
    afterDigits? negative n 0 s =
      if ¬ negative then some (.integer n, s)
      else if 0 < n ∧ n ≤ 9223372036854775808 then some (.integer (-n), s)
      else some (.float (Binary64.ofNat n).neg, s) := by
  cases s with
  | nil => simp [afterDigits?]
  | cons c s =>
    obtain ⟨-, hpoint, he, he'⟩ := hs
    simp [afterDigits?, hpoint, he, he']

theorem magnitude?_ofNat (negative : Bool) (hn : n ≤ 18446744073709551615) (hs : Ends s) :
    magnitude? negative (Numeral.ofNat n ++ s) = afterDigits? negative n 0 s := by
  have hvalue := Numeral.value_ofNat n
  rw [magnitude?_append negative (Numeral.ofNat_ne_nil n) (fun c => Numeral.isDigit_of_mem_ofNat)
    (Numeral.not_leading_zero n) (by rw [hvalue]; exact hn) hs, hvalue]

/-- Digits have no sign in front. -/
theorem read?_append (hne : ds ≠ []) (hd : ∀ c ∈ ds, c.isDigit = true) (s : List Char) :
    read? (ds ++ s) = magnitude? false (ds ++ s) := by
  obtain ⟨c, ds, rfl⟩ := List.exists_cons_of_ne_nil hne
  have hc := hd c List.mem_cons_self
  rw [List.cons_append, read?]
  rintro t heq
  cases heq
  cases hc

theorem read?_ofInt {i : Int} (hlow : -9223372036854775808 ≤ i) (hhigh : i ≤ 18446744073709551615)
    (hs : Ends s) : read? (Numeral.ofInt i ++ s) = some (.integer i, s) := by
  have hmagnitude := fun negative => magnitude?_ofNat (n := i.natAbs) negative (by omega) hs
  unfold Numeral.ofInt
  split
  · next hneg =>
    rw [List.cons_append, read?, hmagnitude, afterDigits?_of_ends _ _ hs, if_neg (by decide),
      if_pos (by omega), Int.ofNat_natAbs_of_nonpos (Int.le_of_lt hneg), Int.neg_neg]
  · next hnonneg =>
    rw [read?_append (Numeral.ofNat_ne_nil _) fun c => Numeral.isDigit_of_mem_ofNat, hmagnitude,
      afterDigits?_of_ends _ _ hs, if_pos (by decide), Int.natAbs_of_nonneg (Int.not_lt.1 hnonneg)]

end Number

theorem isSpace_of_isDigit {c : Char} (h : c.isDigit = true) : isSpace c = false := by
  simp only [isSpace, Bool.or_eq_false_iff, beq_eq_false_iff_ne]
  refine ⟨⟨⟨?_, ?_⟩, ?_⟩, ?_⟩ <;> (rintro rfl; cases h)

/-- A text that starts like a number is an integer if its number is one. -/
theorem readInteger_of_read? {c : Char} {s rest : List Char} {i : Int64}
    (hc : c = '-' ∨ c.isDigit = true)
    (hread : Number.read? (c :: s) = some (.integer i.toInt, rest)) :
    readInteger (c :: s) = .ok (i, rest) := by
  have hspace : isSpace c = false := by
    rcases hc with rfl | hc
    · rfl
    · exact isSpace_of_isDigit hc
  have hskip : skipSpace (c :: s) = c :: s := List.dropWhile_cons_of_neg (by simp [hspace])
  have hstarts : startsNumber (c :: s) = true := by
    rcases hc with rfl | hc
    · rfl
    · simp [startsNumber, hc]
  simp only [readInteger, hskip, hstarts, if_true, hread, count?_toInt]

/-- A written integer is read back, and the reader stops after it. -/
theorem readInteger_ofInt {s : List Char} (i : Int64) (hs : Number.Ends s) :
    readInteger (Numeral.ofInt i.toInt ++ s) = .ok (i, s) := by
  obtain ⟨hlow, hhigh⟩ := fits_toInt i
  have hread := Number.read?_ofInt hlow (by omega) hs
  obtain ⟨c, ds, hc, hd⟩ := Numeral.exists_ofInt_eq_cons i.toInt
  rw [hd, List.cons_append] at hread ⊢
  exact readInteger_of_read? hc hread

end BootClock.Json
