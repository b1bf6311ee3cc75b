import BootClock.Log.Directive
import BootClock.Text.Split
/-!
# Reading a directive

The text of a directive is a level, which holds for every event; or a target, which may be followed
by an equals sign and a level. Between the two, brackets may name a span, and braces within the
brackets a field: `device_uptime[{error}]=debug`. The field may have a value, which is a number or a
pattern.

The marks of a directive are looked for in its text without the white space around it, but its parts
are taken from the same places, counted in bytes, of the text as it stands. So white space behind
the last part belongs to that part, and white space in front moves every part: a directive that
begins with it is about no event of this library.
-/

namespace BootClock.Log

/-! ## Values of fields -/

/-- An exponent, if there is one. -/
def isExponent : List Char → Bool
  | [] => true
  | e :: s =>
    let digits := match s with
      | '+' :: s | '-' :: s => s
      | s => s
    (e == 'e' || e == 'E') && !digits.isEmpty && digits.all Char.isDigit

/-- The text is a number, maybe with a fraction and an exponent. -/
def isNumber (s : List Char) : Bool :=
  let s := match s with
    | '+' :: s | '-' :: s => s
    | s => s
  let whole := s.takeWhile Char.isDigit
  let (fraction, rest) := match s.dropWhile Char.isDigit with
    | '.' :: r => (r.takeWhile Char.isDigit, r.dropWhile Char.isDigit)
    | r => ([], r)
  String.ofList (s.map Char.toLower) ∈ ["inf", "infinity", "nan"] ||
    (!(whole ++ fraction).isEmpty && isExponent rest)

/-- What is wrong with a field. Only its value can be, the text between its first equals sign and
the next. -/
def fieldFlaw? (field : List Char) : Option Flaw :=
  match split '=' field with
  | _ :: value :: _ => if isNumber value then none else (Pattern.fault? value).map .value
  | _ => none

/-! ## Parts between marks -/

/-- The characters that begin in the first `n` bytes of a text. -/
def takeBytes (n : Nat) : List Char → List Char
  | [] => []
  | c :: s => if n = 0 then [] else c :: takeBytes (n - c.utf8Size) s

/-- The characters behind those. -/
def dropBytes (n : Nat) : List Char → List Char
  | [] => []
  | c :: s => if n = 0 then c :: s else dropBytes (n - c.utf8Size) s

theorem takeBytes_append_dropBytes (n : Nat) (s : List Char) :
    takeBytes n s ++ dropBytes n s = s := by
  induction s generalizing n with
  | nil => rfl
  | cons c s ih =>
    unfold takeBytes dropBytes
    split
    · rfl
    · simp [ih]

/-- A text that is searched for marks, beside the text that its parts are taken from. -/
structure Cursor where
  marks : List Char
  parts : List Char

namespace Cursor

/-- Behind a mark, where `marks` is what follows it. -/
def behind (c : Cursor) (marks : List Char) : Cursor := ⟨marks, dropBytes 1 c.parts⟩

/-- The part before the first mark, the mark, and what is behind it; where there is no mark, the
part goes on to the end of the text. -/
def upTo (isMark : Char → Bool) (c : Cursor) : List Char × Option (Char × Cursor) :=
  let before := c.marks.takeWhile fun x => !isMark x
  let n := before.foldr (fun x n => x.utf8Size + n) 0
  match c.marks.drop before.length with
  | mark :: rest => (takeBytes n c.parts, some (mark, behind ⟨[], dropBytes n c.parts⟩ rest))
  | [] => (c.parts, none)

end Cursor

/-! ## The directive -/

namespace Directive

/-- Characters that a target starts with. -/
def startsTarget (c : Char) : Bool := isAlphanumeric c || c == '-' || c == ':' || c == '_'

/-- What follows an equals sign. Nothing stands for everything. -/
def levelOf (s : List Char) : Except Flaw Level :=
  if s.isEmpty then .ok .everything
  else match Level.ofText? s with
    | some level => .ok level
    | none => .error .level

/-- What follows the brackets. -/
def readLevel (target : List Char) (condition : Condition) (c : Cursor) : Except Flaw Directive :=
  match c.marks with
  | [] => .ok ⟨target, condition, .everything⟩
  | '=' :: marks => (levelOf (c.behind marks).parts).map fun level => ⟨target, condition, level⟩
  | _ => .error .form

/-- What follows the opening brace. -/
def readField (target span : List Char) (c : Cursor) : Except Flaw Directive :=
  match c.upTo (· == '\x7d') with
  | (field, some (_, rest)) =>
    if field.isEmpty then .error .form
    else match fieldFlaw? field with
      | some flaw => .error flaw
      | none => match rest.marks with
        | ']' :: marks => readLevel target (.of span field) (rest.behind marks)
        | _ => .error .form
  | (_, none) => .error .form

/-- What follows the opening bracket. -/
def readSpan (target : List Char) (c : Cursor) : Except Flaw Directive :=
  match c.upTo fun x => x == ']' || x == '\x7b' with
  | (span, some (mark, rest)) =>
    if mark = ']' then readLevel target .inSpan rest else readField target span rest
  | (_, none) => .error .form

def ofText (s : List Char) : Except Flaw Directive :=
  match trimBlank s with
  | [] => .error .form
  | '[' :: marks => readSpan [] (Cursor.behind ⟨[], s⟩ marks)
  | first :: marks =>
    if !startsTarget first then .error .form
    else match Cursor.upTo (fun x => x == '=' || x == '[') ⟨first :: marks, s⟩ with
      | (all, none) => match Level.ofText? all with
        | some level => .ok ⟨[], .always, level⟩
        | none => .ok ⟨all, .always, .everything⟩
      | (target, some (mark, rest)) =>
        if mark = '=' then (levelOf rest.parts).map fun level => ⟨target, .always, level⟩
        else readSpan target rest

example : (ofText "a::b=+04".toList).toOption = some ⟨"a::b".toList, .always, 4⟩ := by
  decide +kernel

example : (ofText "a[\x7berror\x7d]".toList).toOption =
    some ⟨['a'], .field "error".toList, .everything⟩ := by decide +kernel

example : (ofText "a[b]=off ".toList).toOption = none := by decide +kernel

example : (ofText "a[\x7bb=+1.5e-3\x7d]".toList).toOption = some ⟨['a'], .inSpan, .everything⟩ := by
  decide +kernel

end Directive

end BootClock.Log
