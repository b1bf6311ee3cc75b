import BootClock.Text.Hex
import BootClock.Toml.Blank
/-!
# Strings of a document

Four ways to write a string: between double quotes, where a backslash starts an escape, or between
single quotes, where it stands for itself; and each of the two over several lines, between three
quotes. Reading goes piece by piece until the end is met.
-/

namespace BootClock.Toml

/-- A way of writing strings. -/
structure Quoting where
  mark : Char
  /-- A backslash starts an escape. -/
  escapes : Bool
  /-- The string may go over several lines. -/
  lines : Bool
  deriving DecidableEq, Repr

/-- The character with the number that `width` hexadecimal digits write. -/
def escapedNumber? (width : Nat) (s : List Char) : Option (List Char × List Char) := do
  let digits := s.take width
  let n ← Hex.number? 16 digits
  if digits.length = width ∧ n.isValidChar then return ([Char.ofNat n], s.drop width) else none

/-- The character of an escape after its backslash. -/
def escaped? : List Char → Option (List Char × List Char)
  | 'b' :: s => some (['\x08'], s)
  | 't' :: s => some (['\t'], s)
  | 'n' :: s => some (['\n'], s)
  | 'f' :: s => some (['\x0c'], s)
  | 'r' :: s => some (['\r'], s)
  | '"' :: s => some (['"'], s)
  | '\\' :: s => some (['\\'], s)
  | 'u' :: s => escapedNumber? 4 s
  | 'U' :: s => escapedNumber? 8 s
  | _ => none

theorem length_lt_of_escaped? {s : List Char} {p : List Char × List Char}
    (h : escaped? s = some p) : p.2.length < s.length := by
  have number {width : Nat} {s : List Char} {p : List Char × List Char}
      (h : escapedNumber? width s = some p) : p.2.length ≤ s.length := by
    simp only [escapedNumber?, Option.bind_eq_bind, Option.bind_eq_some_iff] at h
    obtain ⟨n, -, h⟩ := h
    split at h
    · cases h
      simp
    · cases h
  unfold escaped? at h
  split at h
  case h_8 | h_9 => have := number h; simp only [List.length_cons]; omega
  case h_10 => cases h
  all_goals cases h; simp

/-- After a backslash at the end of a line: the text after all white space that follows. -/
def joinLines? (s : List Char) : Option (List Char) :=
  (afterBreak? (skipBlanks s)).map skipSpace

theorem length_lt_of_joinLines? {s r : List Char} (h : joinLines? s = some r) :
    r.length < s.length := by
  obtain ⟨u, hu, rfl⟩ := Option.map_eq_some_iff.1 h
  have h1 := length_lt_of_afterBreak? hu
  have h2 := length_skipBlanks_le s
  have h3 := length_skipSpace_le u
  omega

namespace Quoting

/-- At the end of a string: the quotes that still belong to it, and the text after it. Of a row of
quotes that ends a string over several lines the last three of at most five are its end. -/
def end? (q : Quoting) (s : List Char) : Option (List Char × List Char) :=
  let row := (s.takeWhile (· == q.mark)).length
  if q.lines then
    if row < 3 then none
    else some (List.replicate (min row 5 - 3) q.mark, s.drop (min row 5))
  else if row = 0 then none
  else some ([], s.drop 1)

/-- One piece of a string: the characters it stands for, and the text after it. -/
def piece? (q : Quoting) : List Char → Option (List Char × List Char)
  | [] => none
  | c :: s =>
    if q.escapes ∧ c = '\\' then
      match q.lines, joinLines? s with
      | true, some rest => some ([], rest)
      | _, _ => escaped? s
    else if isPlain c then some ([c], s)
    else if q.lines then (afterBreak? (c :: s)).map fun rest => (['\n'], rest)
    else none

theorem length_lt_of_piece? {q : Quoting} {s : List Char} {p : List Char × List Char}
    (h : q.piece? s = some p) : p.2.length < s.length := by
  cases s with
  | nil => cases h
  | cons c s =>
    simp only [piece?] at h
    split at h
    · split at h
      · next hj =>
        cases h
        have := length_lt_of_joinLines? hj
        simp only [List.length_cons]
        omega
      · have := length_lt_of_escaped? h
        simp only [List.length_cons]
        omega
    · split at h
      · cases h
        simp
      · split at h
        · obtain ⟨r, hr, rfl⟩ := Option.map_eq_some_iff.1 h
          exact length_lt_of_afterBreak? hr
        · cases h

/-- The rest of a string, and the text after it. -/
def rest? (q : Quoting) (s : List Char) : Option (List Char × List Char) :=
  match q.end? s with
  | some e => some e
  | none => match _h : q.piece? s with
    | none => none
    | some (cs, r) => (q.rest? r).map fun p => (cs ++ p.1, p.2)
termination_by s.length
decreasing_by exact length_lt_of_piece? _h

end Quoting

/-- A string on one line, from its opening quote on. -/
def lineText? : List Char → Option (List Char × List Char)
  | '"' :: s => Quoting.rest? ⟨'"', true, false⟩ s
  | '\'' :: s => Quoting.rest? ⟨'\'', false, false⟩ s
  | _ => none

/-- A string of any kind. A line break right after three opening quotes does not count. -/
def anyText? : List Char → Option (List Char × List Char)
  | '"' :: '"' :: '"' :: s => Quoting.rest? ⟨'"', true, true⟩ ((afterBreak? s).getD s)
  | '\'' :: '\'' :: '\'' :: s => Quoting.rest? ⟨'\'', false, true⟩ ((afterBreak? s).getD s)
  | s => lineText? s

example : anyText? "\"a\\u00e9\\\"\" b".toList = some ("aé\"".toList, [' ', 'b']) := by
  decide +kernel

example : anyText? "\"\"\"\r\na\"\"b\\ \n\n c\"\"\"\"".toList = some ("a\"\"bc\"".toList, []) := by
  decide +kernel

example : anyText? "'''\\n'''''".toList = some ("\\n''".toList, []) := by decide +kernel

example : anyText? "\"\\ud800\"".toList = none := by decide +kernel

end BootClock.Toml
