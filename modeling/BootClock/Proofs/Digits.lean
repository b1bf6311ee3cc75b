import BootClock.Text.Blank
import BootClock.Text.Numeral
/-!
# Numerals in front of other text

A reader takes digits as long as there are any, so a numeral is taken whole if the text goes on
with something else (`takeWhile_isDigit_append`). The numeral of a number has no zero in front
unless it is the zero itself (`not_leading_zero`).
-/

namespace BootClock

theorem toNat_of_isDigit {c : Char} (h : c.isDigit = true) : 48 ≤ c.toNat ∧ c.toNat ≤ 57 := by
  simp only [Char.isDigit, Bool.and_eq_true, decide_eq_true_eq, UInt32.le_iff_toNat_le] at h
  exact h

theorem isBlank_of_isDigit {c : Char} (h : c.isDigit = true) : isBlank c = false := by
  have hrange := toNat_of_isDigit h
  simp only [isBlank, Bool.or_eq_false_iff, Bool.and_eq_false_iff, decide_eq_false_iff_not,
    beq_eq_false_iff_ne]
  omega

namespace Numeral

/-- The text does not go on with a digit. -/
def Ends : List Char → Prop
  | [] => True
  | c :: _ => c.isDigit = false

variable {ds s : List Char}

theorem Ends.takeWhile_eq_nil (h : Ends s) : s.takeWhile Char.isDigit = [] := by
  cases s with
  | nil => rfl
  | cons c s => exact List.takeWhile_cons_of_neg (Bool.eq_false_iff.1 h)

theorem Ends.dropWhile_eq_self (h : Ends s) : s.dropWhile Char.isDigit = s := by
  cases s with
  | nil => rfl
  | cons c s => exact List.dropWhile_cons_of_neg (Bool.eq_false_iff.1 h)

theorem Ends.take (h : Ends s) (k : Nat) : Ends (s.take k) := by
  cases s with
  | nil => simpa using h
  | cons c s => cases k <;> trivial

theorem takeWhile_isDigit_append (hd : ∀ c ∈ ds, c.isDigit = true) (hs : Ends s) :
    (ds ++ s).takeWhile Char.isDigit = ds := by
  rw [List.takeWhile_append_of_pos hd, hs.takeWhile_eq_nil, List.append_nil]

theorem dropWhile_isDigit_append (hd : ∀ c ∈ ds, c.isDigit = true) (hs : Ends s) :
    (ds ++ s).dropWhile Char.isDigit = s := by
  rw [List.dropWhile_append_of_pos hd, hs.dropWhile_eq_self]

theorem ofNat_ne_nil (n : Nat) : ofNat n ≠ [] := Nat.toDigits_ne_nil

theorem exists_ofNat_eq_cons (n : Nat) : ∃ c ds, c.isDigit = true ∧ ofNat n = c :: ds := by
  cases hd : ofNat n with
  | nil => exact absurd hd (ofNat_ne_nil n)
  | cons c ds => exact ⟨c, ds, isDigit_of_mem_ofNat (hd ▸ List.mem_cons_self), rfl⟩

theorem exists_padded_eq_cons (width n : Nat) :
    ∃ c ds, c.isDigit = true ∧ padded width n = c :: ds := by
  cases hd : padded width n with
  | nil => exact absurd hd (List.append_ne_nil_of_right_ne_nil _ (ofNat_ne_nil n))
  | cons c ds => exact ⟨c, ds, isDigit_of_mem_padded (hd ▸ List.mem_cons_self), rfl⟩

theorem mem_ofInt {i : Int} {c : Char} (h : c ∈ ofInt i) : c = '-' ∨ c.isDigit = true := by
  unfold ofInt at h
  split at h
  · rcases List.mem_cons.1 h with hsign | hdigit
    · exact .inl hsign
    · exact .inr (isDigit_of_mem_ofNat hdigit)
  · exact .inr (isDigit_of_mem_ofNat h)

theorem not_mem_ofInt {c : Char} (hsign : c ≠ '-') (hdigit : c.isDigit = false) (i : Int) :
    c ∉ ofInt i := by
  intro hmem
  rcases mem_ofInt hmem with rfl | hmem
  · exact hsign rfl
  · exact absurd hmem (Bool.eq_false_iff.1 hdigit)

theorem exists_ofInt_eq_cons (i : Int) :
    ∃ c ds, (c = '-' ∨ c.isDigit = true) ∧ ofInt i = c :: ds := by
  cases hd : ofInt i with
  | nil =>
    unfold ofInt at hd
    split at hd
    · cases hd
    · exact absurd hd (ofNat_ne_nil _)
  | cons c ds => exact ⟨c, ds, mem_ofInt (hd ▸ List.mem_cons_self), rfl⟩

theorem head?_ofNat_ne_zero {n : Nat} (h : 0 < n) : (ofNat n).head? ≠ some '0' := by
  induction n using Nat.strongRecOn with
  | ind n ih =>
    by_cases hlt : n < 10
    · have hdigit : ∀ m : Fin 10, 0 < m.val → [m.val.digitChar].head? ≠ some '0' := by decide
      rw [ofNat, Nat.toDigits_of_lt_base hlt]
      exact hdigit ⟨n, hlt⟩ h
    · have hhead := ih (n / 10) (by omega) (by omega)
      obtain ⟨c, ds, -, hd⟩ := exists_ofNat_eq_cons (n / 10)
      rw [hd] at hhead
      rw [ofNat] at hd
      rw [ofNat, Nat.toDigits_of_base_le (by decide) (by omega), hd]
      exact hhead

/-- Only the zero itself starts with a zero. -/
theorem not_leading_zero (n : Nat) : ¬ ((ofNat n).head? = some '0' ∧ 1 < (ofNat n).length) := by
  rintro ⟨hhead, hlength⟩
  rcases Nat.eq_zero_or_pos n with rfl | hpos
  · exact absurd hlength (by decide)
  · exact head?_ofNat_ne_zero hpos hhead

end Numeral

end BootClock
