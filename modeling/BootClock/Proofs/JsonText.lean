import BootClock.Json.Text
/-!
# Reading back a JSON string

Every character is written as one piece (`pieces?_escape`), and every such piece is read back as its
character (`joined?_pieceOf`), so a written string is read back whatever it contains and whatever
follows it (`readText_writeText`). What is written holds no control character
(`le_toNat_of_mem_writeText`).
-/

namespace BootClock.Json

/-! ## Pieces -/

/-- The piece that a character is written as: a control character without a letter of its own is
written as a number. -/
def pieceOf (c : Char) : Piece :=
  match c with
  | '\x08' | '\x0c' | '\n' | '\r' | '\t' => .plain c
  | c => if c.toNat < 32 then .unit c.toNat else .plain c

theorem number?_digits {n : Nat} (h : n < 256) :
    Hex.number? 16 ['0', '0', Hex.digit (n / 16), Hex.digit (n % 16)] = some n := by
  have hhigh := Hex.value?_digit (show n / 16 < 16 by omega)
  have hlow := Hex.value?_digit (show n % 16 < 16 by omega)
  have hzero : Hex.value? '0' = some 0 := by decide
  simp [Hex.number?, hhigh, hlow, hzero, Nat.div_lt_iff_lt_mul, h, Nat.mod_lt]
  omega

theorem pieces?_of_plain {c : Char} (hquote : c ≠ '"') (hback : c ≠ '\\') (h : ¬ c.toNat < 32)
    (s : List Char) : pieces? (c :: s) = (pieces? s).map fun p => (.plain c :: p.1, p.2) := by
  cases hs : pieces? s <;> simp [pieces?, hback, h, hs]

theorem pieces?_escape (c : Char) (s : List Char) :
    pieces? (escape c ++ s) = (pieces? s).map fun p => (pieceOf c :: p.1, p.2) := by
  unfold escape
  split
  case h_8 hquote hback hb hf hn hr ht =>
    have hpiece : pieceOf c = if c.toNat < 32 then .unit c.toNat else .plain c := by
      unfold pieceOf
      split <;> first | contradiction | rfl
    rw [hpiece]
    split
    · next hlt =>
      cases hs : pieces? s <;> simp [pieces?, number?_digits (show c.toNat < 256 by omega), hs]
    · next hge => exact pieces?_of_plain hquote hback hge s
  all_goals cases hs : pieces? s <;> simp [pieces?, pieceOf, unescape?, hs]

/-- The pieces of a written string, up to its closing quote. -/
theorem pieces?_writeText (s rest : List Char) :
    pieces? (s.flatMap escape ++ '"' :: rest) = some (s.map pieceOf, rest) := by
  induction s with
  | nil => rfl
  | cons c s ih => rw [List.flatMap_cons, List.append_assoc, pieces?_escape, ih]; rfl

/-! ## Characters -/

/-- A number that is no half of a pair is one character, whatever comes after it. -/
theorem joined?_unit {n : Nat} (h : n < 32) (ps : List Piece) :
    joined? (.unit n :: ps) = (joined? ps).map (Char.ofNat n :: ·) := by
  have hhigh : isHighHalf n = false := by simp [isHighHalf]; omega
  have hlow : isLowHalf n = false := by simp [isLowHalf]; omega
  match ps with
  | [] => simp [joined?, hhigh, hlow]
  | .unit m :: ps => cases hs : joined? (.unit m :: ps) <;> simp [joined?, hhigh, hlow, hs]
  | .plain c :: ps => cases hs : joined? ps <;> simp [joined?, hhigh, hlow, hs]

theorem joined?_pieceOf (c : Char) (ps : List Piece) :
    joined? (pieceOf c :: ps) = (joined? ps).map (c :: ·) := by
  have hplain : joined? (.plain c :: ps) = (joined? ps).map (c :: ·) := by
    cases hs : joined? ps <;> simp [joined?, hs]
  unfold pieceOf
  split
  case h_6 =>
    split
    · next hlt => rw [joined?_unit hlt, Char.ofNat_toNat]
    · exact hplain
  all_goals exact hplain

theorem joined?_map_pieceOf (s : List Char) : joined? (s.map pieceOf) = some s := by
  induction s with
  | nil => rfl
  | cons c s ih => rw [List.map_cons, joined?_pieceOf, ih]; rfl

/-- A written string is read back, and the reader stops after its closing quote. -/
theorem readText_writeText (s rest : List Char) :
    readText (s.flatMap escape ++ '"' :: rest) = .ok (s, rest) := by
  simp only [readText, pieces?_writeText, joined?_map_pieceOf]

/-! ## Control characters -/

theorem le_toNat_of_mem_escape {c d : Char} (h : d ∈ escape c) : 32 ≤ d.toNat := by
  have hdigit : ∀ n : Fin 16, 32 ≤ (Hex.digit n.val).toNat := by decide
  unfold escape at h
  split at h
  case h_8 =>
    split at h
    · next hlt =>
      have hhigh := hdigit ⟨c.toNat / 16, by omega⟩
      have hlow := hdigit ⟨c.toNat % 16, by omega⟩
      simp only [List.mem_cons, List.not_mem_nil, or_false] at h
      rcases h with rfl | rfl | rfl | rfl | rfl | rfl
      all_goals first | decide | assumption
    · next hge =>
      rw [List.mem_singleton.1 h]
      omega
  all_goals
    simp only [List.mem_cons, List.not_mem_nil, or_false] at h
    rcases h with rfl | rfl <;> decide

theorem le_toNat_of_mem_writeText {s : List Char} {d : Char} (h : d ∈ writeText s) :
    32 ≤ d.toNat := by
  simp only [writeText, List.mem_append, List.mem_cons, List.mem_flatMap, List.not_mem_nil,
    or_false] at h
  rcases h with (rfl | ⟨c, -, hd⟩) | rfl
  · decide
  · exact le_toNat_of_mem_escape hd
  · decide

end BootClock.Json
