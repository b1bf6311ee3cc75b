import BootClock.Fault
import BootClock.Instant.Reader
import BootClock.Mismatch
/-!
# Reading JSON, in general

A reader takes a text from its first character on and stops at the first fault it meets, so a value
of the wrong kind is reported even if the text after it is broken. Every reader returns the text it
left.
-/

namespace BootClock.Json

/-- Why a text could not be read. -/
inductive Fault where
  /-- The text is no JSON. -/
  | malformed
  /-- A value is not what was wanted there. -/
  | mismatch (m : Mismatch)
  /-- A number that is no boot time. -/
  | bootTime (f : BootClock.Fault)
  /-- A string that is no instant. -/
  | instant (f : Instant.TextFault)
  deriving DecidableEq

namespace Fault

/-- What is wrong with the data; nothing to say of a text that is no JSON. -/
def message? : Fault → Option String
  | malformed => none
  | mismatch m => some (m.message Decimal.jsonLayout)
  | bootTime f => some f.message
  | instant f => some f.message

end Fault

/-- The four characters that JSON allows between its parts. -/
def isSpace (c : Char) : Bool := c == ' ' || c == '\t' || c == '\n' || c == '\r'

def skipSpace (s : List Char) : List Char := s.dropWhile isSpace

/-- The text after `word`, if it starts with it. -/
def afterWord : List Char → List Char → Option (List Char)
  | [], s => some s
  | _ :: _, [] => none
  | c :: word, d :: s => if c = d then afterWord word s else none

/-- Nothing but white space is left. -/
def atEnd (s : List Char) : Bool := (skipSpace s).isEmpty

/-- The value of a reader that must take the whole text. -/
def whole {α : Type} : Except Fault (α × List Char) → Except Fault α
  | .ok (a, s) => if atEnd s then .ok a else .error .malformed
  | .error f => .error f

end BootClock.Json
