import BootClock.Json.Text
import BootClock.Log.Filter
/-!
# Lines of a log

An event is logged as a line of text, or as a JSON object on a line, by what `LOG_FORMAT` names. In a
line of text the message has no character left that a terminal would act on. Left out: the time that
a line starts with.
-/

namespace BootClock.Log

inductive Style where
  | text
  | json
  deriving DecidableEq, Repr

/-- JSON is written if it is asked for, in either case; anything else gives text. -/
def Style.ofName (name : Option String) : Style :=
  if name.any fun s => s.toList.map Char.toLower == "json".toList then .json else .text

/-- A character of a message; one that a terminal would act on is shown by its number. -/
def harmless (c : Char) : List Char :=
  if c = '\x07' ∨ c = '\x08' ∨ c = '\x0c' ∨ c = '\x1b' ∨ c = '\x7f' then
    ['\\', 'x', Hex.digit (c.toNat / 16), Hex.digit (c.toNat % 16)]
  else if 0x80 ≤ c.toNat ∧ c.toNat ≤ 0x9F then
    ['\\', 'u', '\x7b', Hex.digit (c.toNat / 16), Hex.digit (c.toNat % 16), '\x7d']
  else [c]

/-- Severity, target, message and fields. -/
def textLine (e : Event) : String :=
  e.severity.text ++ " " ++ e.target ++ ": " ++
    String.ofList (e.message.toList.flatMap harmless) ++ e.fieldsText

/-- The members of an object. -/
def jsonObject (members : List (String × List Char)) : List Char :=
  '\x7b' :: List.intercalate [','] (members.map fun m =>
    Json.writeText m.1.toList ++ ':' :: m.2) ++ ['\x7d']

/-- Severity, the message with the fields, and the target. -/
def jsonLine (e : Event) : String :=
  let fields := e.members.map fun m => (m.1, Json.writeText m.2.toList)
  String.ofList <| jsonObject
    [("level", Json.writeText e.severity.text.toList), ("fields", jsonObject fields),
      ("target", Json.writeText e.target.toList)]

def line : Style → Event → String
  | .text => textLine
  | .json => jsonLine

/-- The lines of the events that a filter shows. -/
def lines (filter : Filter) (style : Style) (events : List Event) : List String :=
  (events.filter filter.shows).map (line style)

example : textLine (.settingsFound "a\x1b") =
    "DEBUG device_uptime::config: Loading config from: a\\x1b" := by decide +kernel

example : jsonLine (.settingsMissing "x") =
    "\x7b\"level\":\"DEBUG\",\"fields\":\x7b\"message\":\"No x found, using defaults\"\x7d," ++
      "\"target\":\"device_uptime::config\"\x7d" := by decide +kernel

end BootClock.Log
