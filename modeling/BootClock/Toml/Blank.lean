/-!
# Between the parts of a document

Blanks, line breaks and comments. A line ends with a line feed, alone or after a carriage return,
or with the text; a carriage return on its own may stand nowhere.
-/

namespace BootClock.Toml

def isBlank (c : Char) : Bool := c == ' ' || c == '\t'

def skipBlanks (s : List Char) : List Char := s.dropWhile isBlank

theorem length_skipBlanks_le (s : List Char) : (skipBlanks s).length ≤ s.length :=
  (List.dropWhile_sublist _).length_le

/-- Characters that may stand in comments and strings: all but the controls, of which only the
tabulator is one. -/
def isPlain (c : Char) : Bool := c == '\t' || (' ' ≤ c && c ≤ '~') || 128 ≤ c.toNat

/-- The text after the line break it starts with. -/
def afterBreak? : List Char → Option (List Char)
  | '\n' :: s => some s
  | '\r' :: '\n' :: s => some s
  | _ => none

theorem length_lt_of_afterBreak? {s r : List Char} (h : afterBreak? s = some r) :
    r.length < s.length := by
  unfold afterBreak? at h
  split at h
  · cases h
    exact Nat.lt_succ_self _
  · cases h
    simp only [List.length_cons]
    omega
  · cases h

/-- The text after the comment it may start with. -/
def skipComment : List Char → List Char
  | '#' :: s => s.dropWhile isPlain
  | s => s

/-- The text after the rest of a line that holds nothing but blanks and a comment. -/
def endLine? (s : List Char) : Option (List Char) :=
  match skipComment (skipBlanks s) with
  | [] => some []
  | s => afterBreak? s

/-- The text after blanks and line breaks. -/
def skipSpace : List Char → List Char
  | [] => []
  | c :: s =>
    if isBlank c || c == '\n' then skipSpace s
    else if c = '\r' ∧ s.head? = some '\n' then skipSpace s
    else c :: s

theorem length_skipSpace_le (s : List Char) : (skipSpace s).length ≤ s.length := by
  induction s with
  | nil => simp [skipSpace]
  | cons c s ih =>
    unfold skipSpace
    repeat' split
    all_goals simp only [List.length_cons]; omega

/-- The text after blanks, line breaks and comments; `comment` inside of one. -/
def skipGap (comment : Bool) : List Char → List Char
  | [] => []
  | c :: s =>
    if comment && isPlain c then skipGap true s
    else if c = '#' then skipGap true s
    else if isBlank c || c == '\n' then skipGap false s
    else if c = '\r' ∧ s.head? = some '\n' then skipGap false s
    else c :: s

example : endLine? " # é\r\nx".toList = some ['x'] := by decide +kernel

example : endLine? "# \r".toList = none := by decide +kernel

example : skipGap false " # a\n\t#b\r\n ]".toList = [']'] := by decide +kernel

end BootClock.Toml
