import BootClock.Event
import BootClock.Pattern.Reader
/-!
# Directives

A directive says how much detail is shown of some events: those whose target starts with its own,
and that have a field it names. It may also name a span, or a value for a field; both are about
events that lie in a span, and no event of this library does.
-/

namespace BootClock.Log

/-- How much detail is shown: 0 for nothing, up to 5 for everything. -/
abbrev Level : Type := Nat

namespace Level

def everything : Level := 5

def names : List (String × Level) :=
  [("off", 0), ("error", 1), ("warn", 2), ("info", 3), ("debug", 4), ("trace", 5)]

/-- The digits of a number that may have a plus sign. -/
def unsigned : List Char → List Char
  | '+' :: s => s
  | s => s

/-- The level of that name, in either case, or of that number. -/
def ofText? (s : List Char) : Option Level :=
  let digits := unsigned s
  if digits ≠ [] ∧ digits.all Char.isDigit then
    let n := Numeral.value digits
    if n ≤ everything then some n else none
  else names.lookup (String.ofList (s.map Char.toLower))

end Level

/-- What a directive asks of an event besides its target. -/
inductive Condition where
  | always
  /-- The event has the field. -/
  | field (name : List Char)
  /-- The event lies in a span. None of this library does. -/
  | inSpan
  deriving DecidableEq, Repr

namespace Condition

/-- What a span and a field between brackets ask for. Values are compared for fields of spans
alone. -/
def of (span field : List Char) : Condition :=
  if span.isEmpty && !field.contains '=' then .field field else .inSpan

def holds : Condition → Event → Bool
  | always, _ => true
  | field name, e => e.members.any fun m => m.1 == String.ofList name
  | inSpan, _ => false

/-- Decides before another: a field does, and of two fields the one with the later name. -/
def outranks : Condition → Condition → Bool
  | field a, field b => decide (b < a)
  | field _, _ => true
  | _, _ => false

end Condition

structure Directive where
  /-- The start of the targets it is about; empty for all of them. -/
  target : List Char
  condition : Condition
  level : Level
  deriving DecidableEq, Repr

namespace Directive

/-- The directive is about an event. -/
def covers (d : Directive) (e : Event) : Bool :=
  d.target.isPrefixOf e.target.toList && d.condition.holds e

/-- Decides before another that is about the same event: the one with the longer target does, and
of two with one target the one with the higher condition. -/
def outranks (d e : Directive) : Bool :=
  e.target.length < d.target.length ||
    (e.target.length == d.target.length && d.condition.outranks e.condition)

end Directive

/-- Why a text is no directive. -/
inductive Flaw where
  /-- It has not the form of one. -/
  | form
  /-- What follows the equals sign is no level. -/
  | level
  /-- The value of a field is a pattern that cannot be used. -/
  | value (fault : Pattern.Fault)
  deriving DecidableEq, Repr

def Flaw.message : Flaw → String
  | form => "invalid filter directive"
  | level => "error parsing level filter: expected one of \"off\", \"error\", \"warn\", \"info\"" ++
      ", \"debug\", \"trace\", or a number 0-5"
  | value .malformed => "invalid field filter: error building NFA"
  | value .wordEdge => "invalid field filter: unsupported regex feature for DFAs: cannot build " ++
      "DFAs for regexes with Unicode word boundaries; switch to ASCII word boundaries, or " ++
      "heuristically enable Unicode word boundaries or use a different regex engine"

end BootClock.Log
