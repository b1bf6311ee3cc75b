import BootClock.Json.Value
import BootClock.Report
/-!
# Reports and boot times in JSON

A report is written as an object of its five fields, on one line or indented. It is read from an
object with its fields in any order, other fields passed over, or from a list of the five values in
order. A boot time is a bare integer.

| field | here |
| --- | --- |
| `uptime_ms`, `uptime_seconds`, `uptime_human` | `millis`, `seconds`, `human` |
| `boot_time_unix` | `boot` |
| `sampled_at` | `sampledAt` |
-/

namespace BootClock

namespace BootTime

/-- The boot time as a bare integer. -/
def json (b : BootTime) : String := Numeral.intText b.secs.toInt

/-- The boot time that a whole text stands for. -/
def ofJson (s : List Char) : Except Json.Fault BootTime :=
  Json.whole do
    let (n, rest) ← Json.readInteger s
    match ofSeconds n with
    | .ok b => return (b, rest)
    | .error f => throw (.bootTime f)

end BootTime

namespace Report

/-- The fields of a report, in the order they are written. -/
inductive Field where
  | millis
  | seconds
  | human
  | boot
  | sampledAt
  deriving DecidableEq, Repr

namespace Field

def all : List Field := [millis, seconds, human, boot, sampledAt]

def name : Field → List Char
  | millis => "uptime_ms".toList
  | seconds => "uptime_seconds".toList
  | human => "uptime_human".toList
  | boot => "boot_time_unix".toList
  | sampledAt => "sampled_at".toList

/-- The field of that name. -/
def ofName? (name : List Char) : Option Field := all.find? fun f => f.name = name

/-- The value of the field, written. -/
def value (r : Report) : Field → List Char
  | millis => Numeral.ofInt r.millis.toInt
  | seconds => Numeral.ofInt r.seconds.toInt
  | human => Json.writeText r.human.toList
  | boot => Numeral.ofInt r.boot.toInt
  | sampledAt => Json.writeText (r.sampledAt.write .zulu)

end Field

/-! ## Writing -/

/-- The object on one line. -/
def compact (r : Report) : List Char :=
  '\x7b' :: List.intercalate [','] (Field.all.map fun f =>
    Json.writeText f.name ++ ':' :: f.value r) ++ ['\x7d']

/-- The object with a line for each field, indented by two spaces. -/
def indented (r : Report) : List Char :=
  ['\x7b', '\n'] ++ List.intercalate [',', '\n'] (Field.all.map fun f =>
    ' ' :: ' ' :: Json.writeText f.name ++ ':' :: ' ' :: f.value r) ++ ['\n', '\x7d']

def json (r : Report) : String := String.ofList r.compact

/-- The value of the field, if it can be written. -/
def Field.value? (r : Report) : Field → Option (List Char)
  | .sampledAt => (r.sampledAt.write? .zulu).map Json.writeText
  | f => some (f.value r)

/-- The same as `json`, if every field can be written. -/
def json? (r : Report) : Option String := do
  let members ← Field.all.mapM fun f => do return Json.writeText f.name ++ ':' :: (← f.value? r)
  return String.ofList ('\x7b' :: List.intercalate [','] members ++ ['\x7d'])

def prettyJson (r : Report) : String := String.ofList r.indented

/-! ## Reading -/

/-- The fields of a report read so far. -/
structure Draft where
  millis : Option Int64 := none
  seconds : Option Int64 := none
  human : Option String := none
  boot : Option Int64 := none
  sampledAt : Option Instant := none

namespace Draft

def has (d : Draft) : Field → Bool
  | .millis => d.millis.isSome
  | .seconds => d.seconds.isSome
  | .human => d.human.isSome
  | .boot => d.boot.isSome
  | .sampledAt => d.sampledAt.isSome

/-- The report, if every field is there; else the first one that is not. -/
def complete (d : Draft) : Except Json.Fault Report :=
  match d.millis, d.seconds, d.human, d.boot, d.sampledAt with
  | some millis, some seconds, some human, some boot, some sampledAt =>
    .ok { millis, seconds, human, boot, sampledAt }
  | _, _, _, _, _ =>
    let absent := Field.all.find? fun f => !d.has f
    .error (.mismatch (.missing (String.ofList (absent.elim [] Field.name))))

/-- Reads the value of a field into the draft. -/
def readField (d : Draft) (f : Field) (s : List Char) : Except Json.Fault (Draft × List Char) :=
  match f with
  | .millis => (Json.readInteger s).map fun p => ({ d with millis := some p.1 }, p.2)
  | .seconds => (Json.readInteger s).map fun p => ({ d with seconds := some p.1 }, p.2)
  | .human => (Json.readString .text s).map fun p => ({ d with human := some p.1 }, p.2)
  | .boot => (Json.readInteger s).map fun p => ({ d with boot := some p.1 }, p.2)
  | .sampledAt => do
    let (text, rest) ← Json.readString .instant s
    match Instant.read text.toList with
    | .ok t => return ({ d with sampledAt := some t }, rest)
    | .error e => throw (.instant e)

end Draft

/-- The text after a colon. -/
def afterColon (s : List Char) : Except Json.Fault (List Char) :=
  match Json.skipSpace s with
  | ':' :: s => .ok s
  | _ => .error .malformed

/-- Reads one member of an object, from after the opening quote of its name on. -/
def readMember (d : Draft) (s : List Char) : Except Json.Fault (Draft × List Char) := do
  let (name, s) ← Json.readText s
  match Field.ofName? name with
  | some f =>
    if d.has f then throw (.mismatch (.duplicate (String.ofList f.name)))
    d.readField f (← afterColon s)
  | none => match Json.skipValue? (← afterColon s) with
    | some s => return (d, s)
    | none => throw .malformed

/-- Reads the members of an object up to its closing brace; `first` as long as there was none. -/
def readMembers (first : Bool) (d : Draft) (s : List Char) :
    Except Json.Fault (Draft × List Char) :=
  let name : Except Json.Fault (Option (List Char)) := match Json.skipSpace s, first with
    | '\x7d' :: _, _ => .ok none
    | '"' :: r, true => .ok (some r)
    | ',' :: r, false => match Json.skipSpace r with
      | '"' :: r => .ok (some r)
      | _ => .error .malformed
    | _, _ => .error .malformed
  match name with
  | .error f => .error f
  | .ok none => .ok (d, (Json.skipSpace s).drop 1)
  | .ok (some r) => match readMember d r with
    | .error f => .error f
    | .ok (d, r) => if r.length < s.length then readMembers false d r else .error .malformed
termination_by s.length

/-- Reads the values of the remaining fields from a list. -/
def readElements (first : Bool) (d : Draft) : List Field → List Char →
    Except Json.Fault (Draft × List Char)
  | [], s => match Json.skipSpace s with
    | ']' :: s => .ok (d, s)
    | _ => .error .malformed
  | f :: fs, s => do
    let value ← match Json.skipSpace s, first with
      | ']' :: _, _ => throw (.mismatch (.short (Field.all.length - (f :: fs).length)))
      | [], _ => throw .malformed
      | r, true => pure r
      | ',' :: r, false =>
        match Json.skipSpace r with
        | ']' :: _ => throw .malformed
        | r => pure r
      | _, false => throw .malformed
    let (d, s) ← d.readField f value
    readElements false d fs s

/-- The report that a text starts with. -/
def readJson (s : List Char) : Except Json.Fault (Report × List Char) :=
  match Json.skipSpace s with
  | '\x7b' :: s => do
    let (d, s) ← readMembers true {} s
    return (← d.complete, s)
  | '[' :: s => do
    let (d, s) ← readElements true {} Field.all s
    return (← d.complete, s)
  | s => .error (Json.unwanted .report s)

/-- The report that a whole text stands for. -/
def ofJson (s : List Char) : Except Json.Fault Report := Json.whole (readJson s)

end Report

end BootClock
