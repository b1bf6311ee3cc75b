/-!
# White space

The characters of the Unicode property `White_Space`. A time of day may have them around its
parts, and so may the text in front of it.
-/

namespace BootClock

/-- Unicode `White_Space`: blanks, line ends and the spaces of other scripts. -/
def isBlank (c : Char) : Bool :=
  let n := c.toNat
  (0x09 ≤ n && n ≤ 0x0D) || n == 0x20 || n == 0x85 || n == 0xA0 || n == 0x1680 ||
    (0x2000 ≤ n && n ≤ 0x200A) || n == 0x2028 || n == 0x2029 || n == 0x202F || n == 0x205F ||
    n == 0x3000

/-- The text without the white space it starts with. -/
def skipBlank (s : List Char) : List Char := s.dropWhile isBlank

/-- The text without the white space around it. -/
def trimBlank (s : List Char) : List Char := (skipBlank (skipBlank s).reverse).reverse

theorem isBlank_of_isWhitespace {c : Char} (h : c.isWhitespace = true) : isBlank c = true := by
  simp only [Char.isWhitespace, Bool.or_eq_true, decide_eq_true_eq] at h
  rcases h with ((h | h) | h) | h <;> subst h <;> rfl

end BootClock
