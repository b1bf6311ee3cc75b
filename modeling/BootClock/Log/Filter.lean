import BootClock.Log.Directive.Reader
/-!
# Filters for events

A filter is a list of directives, of which the most specific one that is about an event decides
whether it is shown. A text names directives between commas; a part of it that is none is warned of
and does not count. The program takes the text from `RUST_LOG`.
-/

namespace BootClock.Log

/-- Directives, no two of them about the same events. -/
abbrev Filter : Type := List Directive

namespace Filter

/-- With one more directive, which replaces one about the same events. -/
def add (f : Filter) (d : Directive) : Filter :=
  f.filter (fun e => e.target != d.target || e.condition != d.condition) ++ [d]

/-- What is shown unless a text says otherwise. -/
def standard : Directive := ⟨"device_uptime".toList, .always, 3⟩

/-- The parts of a text that are to be directives. -/
def parts (s : List Char) : List (List Char) := (split ',' s).filter fun part => !part.isEmpty

/-- The filter that a text names. The standard directive always holds. -/
def ofText (s : List Char) : Filter :=
  (((parts s).filterMap fun part => (Directive.ofText part).toOption).foldl add []).add standard

/-- A line for each part of a text that is no directive. -/
def warnings (s : List Char) : String :=
  String.join <| (parts s).filterMap fun part => match Directive.ofText part with
    | .ok _ => none
    | .error flaw => some ("ignoring `" ++ String.ofList part ++ "`: " ++ flaw.message ++ "\n")

/-- The directive that decides about an event: of those that are about it, the one that outranks
the others. -/
def decisive? (f : Filter) (e : Event) : Option Directive :=
  (f.filter fun d => d.covers e).foldl (fun best d => match best with
    | some b => if d.outranks b then some d else some b
    | none => some d) none

/-- The event is shown. -/
def shows (f : Filter) (e : Event) : Bool :=
  (f.decisive? e).any fun d => e.severity.detail ≤ d.level

example : (ofText "warn,device_uptime::info=debug".toList).shows
    (.uptimeUnknown .bootTimeUnset) = true := by decide +kernel

example : (ofText "trace".toList).shows (.settingsMissing "x") = false := by decide +kernel

example : (ofText "device_uptime[\x7bmessage\x7d]".toList).shows (.settingsMissing "x") = true := by
  decide +kernel

example : warnings "=,trace".toList = "ignoring `=`: invalid filter directive\n" := by
  decide +kernel

end Filter

end BootClock.Log
