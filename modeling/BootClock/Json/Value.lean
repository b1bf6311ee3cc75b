import BootClock.Json.Number
import BootClock.Json.Text
/-!
# Any JSON value

Two uses of a value that is not wanted: to pass over it (`skipValue`), which checks its grammar and
nothing else, and to say what kind it is (`kindOf`), which looks only as far as that takes.
-/

namespace BootClock.Json

/-- A bracket that waits for its partner. -/
inductive Open where
  | list
  | object
  deriving DecidableEq, Repr

/-- The text after a string, a number or a word; none if something else stands there. -/
def skipScalar? : List Char → Option (List Char)
  | '"' :: s => (pieces? s).map Prod.snd
  | 'n' :: s => afterWord ['u', 'l', 'l'] s
  | 't' :: s => afterWord ['r', 'u', 'e'] s
  | 'f' :: s => afterWord ['a', 'l', 's', 'e'] s
  | s => Number.skip? s

/-- The text after a key and its colon. -/
def skipKey? (s : List Char) : Option (List Char) := do
  match skipSpace s with
  | '"' :: s =>
    let (_, s) ← pieces? s
    match skipSpace s with
    | ':' :: s => return s
    | _ => none
  | _ => none

/-- After a complete value: the brackets that close and, if more is to come, the ones still open
and the text of the next value. -/
def close? : List Open → List Char → Option (List Open × List Char)
  | [], s => some ([], s)
  | o :: os, s =>
    match skipSpace s with
    | ',' :: s => match o with
      | .list => some (o :: os, s)
      | .object => (skipKey? s).map fun s => (o :: os, s)
    | ']' :: s => if o = .list then close? os s else none
    | '}' :: s => if o = .object then close? os s else none
    | _ => none

/-- Passes over a value inside the open brackets, and over the rest of what they enclose. A round
takes in one scalar or one opening bracket, so the text gets shorter. -/
def skipInside? (os : List Open) (s : List Char) : Option (List Char) :=
  let next := match skipSpace s with
    | '[' :: r => match skipSpace r with
      | ']' :: r => close? os r
      | r => some (.list :: os, r)
    | '{' :: r => match skipSpace r with
      | '}' :: r => close? os r
      | r => (skipKey? r).map fun r => (.object :: os, r)
    | r => (skipScalar? r).bind fun r => close? os r
  match next with
  | none => none
  | some ([], r) => some r
  | some (o :: os, r) => if r.length < s.length then skipInside? (o :: os) r else none
termination_by s.length

/-- The text after a value. -/
def skipValue? (s : List Char) : Option (List Char) := skipInside? [] s

/-- The kind of the value a text starts with. Of a list or an object only the bracket is read. -/
def kindOf (s : List Char) : Except Fault Found :=
  let word (w : List Char) (s : List Char) (f : Found) : Except Fault Found :=
    if (afterWord w s).isSome then .ok f else .error .malformed
  match s with
  | 'n' :: s => word ['u', 'l', 'l'] s .null
  | 't' :: s => word ['r', 'u', 'e'] s (.boolean true)
  | 'f' :: s => word ['a', 'l', 's', 'e'] s (.boolean false)
  | '"' :: s => (readText s).map fun p => .text (String.ofList p.1)
  | '[' :: _ => .ok .sequence
  | '{' :: _ => .ok .map
  | s => match Number.read? s with
    | some (n, _) => .ok n.found
    | none => .error .malformed

/-- The fault of a value that is not of the kind wanted. -/
def unwanted (wanted : Wanted) (s : List Char) : Fault :=
  match kindOf s with
  | .ok found => .mismatch (.kind found wanted)
  | .error f => f

/-- A text starts like a number. -/
def startsNumber : List Char → Bool
  | c :: _ => c == '-' || c.isDigit
  | [] => false

/-- A 64-bit integer. -/
def readInteger (s : List Char) : Except Fault (Int64 × List Char) :=
  let s := skipSpace s
  if startsNumber s then
    match Number.read? s with
    | none => .error .malformed
    | some (.integer n, rest) => match count? n with
      | some i => .ok (i, rest)
      | none => .error (.mismatch (.range n .signedInteger))
    | some (.float x, _) => .error (.mismatch (.kind (.float x) .signedInteger))
  else .error (unwanted .signedInteger s)

/-- A string. -/
def readString (wanted : Wanted) (s : List Char) : Except Fault (String × List Char) :=
  match skipSpace s with
  | '"' :: s => (readText s).map fun p => (String.ofList p.1, p.2)
  | s => .error (unwanted wanted s)

example : skipValue? "[1, \x7b\"a\": [null, \"\\ud800\"]\x7d, -0.5e1] x".toList =
    some [' ', 'x'] := by decide +kernel

end BootClock.Json
