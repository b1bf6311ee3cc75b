import BootClock.Fault
import BootClock.Settings
import BootClock.Toml.Document
/-!
# Settings in a document

The sections `time_service` and `output` hold the settings; every other key, at the root or in a
section, is passed over, and a key that is absent leaves its default. A section may also be an array
of its values in order. Reading stops at the first value, in the order of the document, that is not
what its key wants.

| key | here |
| --- | --- |
| `time_service` | `Thresholds.ofValue` |
| `time_service.network_lag_threshold_secs` | `Thresholds.lag` |
| `time_service.resync_threshold_secs` | `Thresholds.resync` |
| `output` | `Format.ofSection` |
| `output.format` | `Format.ofValue` |

Left out: where in a text a fault is, and what is said of a text that is no document.
-/

namespace BootClock

/-- Why a document holds no settings. -/
inductive Unsuitable where
  | mismatch (m : Mismatch)
  /-- There is no such format. -/
  | unknownFormat (name : String)
  /-- The format is neither a string nor a table. -/
  | noFormatName
  /-- The format is a table without a key. -/
  | noKey
  /-- The format is a table with several keys. -/
  | severalKeys
  /-- The value under the name of a format is of a kind that cannot be empty. -/
  | notTable (kind : String)
  /-- The value under the name of a format is not empty. -/
  | notEmpty (kind : String)
  deriving DecidableEq, Repr

namespace Unsuitable

def message : Unsuitable → String
  | mismatch m => m.message Decimal.plainLayout
  | unknownFormat name =>
    "unknown variant " ++ Found.ticked name ++ ", expected " ++ Found.ticked Format.text.name ++
      " or " ++ Found.ticked Format.json.name
  | noFormatName => "wanted string or table"
  | noKey => "wanted exactly 1 element, found 0 elements"
  | severalKeys => "wanted exactly 1 element, more than 1 element"
  | notTable kind => "expected table, found " ++ kind
  | notEmpty kind => "expected empty " ++ kind

end Unsuitable

open Toml

/-- The entries of a section that has these keys: those of a table, or the elements of an array with
the keys in order. A date or a time is a table without any of the keys. -/
def Toml.Value.section? (keys : List String) : Value → Option Table
  | .table _ entries => some entries
  | .array items => some (keys.zip items)
  | .tables items => some (keys.zip (items.map (.table .header)))
  | .moment => some []
  | _ => none

namespace Thresholds

def lagKey : String := "network_lag_threshold_secs"

def resyncKey : String := "resync_threshold_secs"

/-- A threshold is an integer that is not negative. -/
def limit : Value → Except Unsuitable UInt64
  | .integer n =>
    if 0 ≤ n.toInt then .ok (.ofNat n.toInt.toNat)
    else .error (.mismatch (.range n.toInt .unsignedInteger))
  | v => .error (.mismatch (.kind v.found .unsignedInteger))

/-- Takes over what an entry of the section sets. -/
def read (t : Thresholds) (e : String × Value) : Except Unsuitable Thresholds :=
  if e.1 = lagKey then (limit e.2).map fun lag => { t with lag }
  else if e.1 = resyncKey then (limit e.2).map fun resync => { t with resync }
  else .ok t

/-- The thresholds of a section. -/
def ofValue (v : Value) : Except Unsuitable Thresholds :=
  match v.section? [lagKey, resyncKey] with
  | some entries => entries.foldlM read {}
  | none => .error (.mismatch (.kind v.found .thresholds))

end Thresholds

namespace Format

def key : String := "format"

def ofName (name : String) : Except Unsuitable Format :=
  match ofName? name with
  | some f => .ok f
  | none => .error (.unknownFormat name)

/-- What stands under the name of a format must hold nothing. -/
def checkEmpty : Value → Except Unsuitable Unit
  | .table _ [] | .array [] | .tables [] => .ok ()
  | .table .. | .array _ => .error (.notEmpty "table")
  | .tables _ => .error (.notEmpty "array")
  | v => .error (.notTable v.kind)

/-- A format is its name, or a table whose only key is its name and holds nothing. -/
def ofValue : Value → Except Unsuitable Format
  | .text name => ofName name
  | .table _ [] => .error .noKey
  | .table _ [(name, v)] => do
    let f ← ofName name
    checkEmpty v
    return f
  | .table .. => .error .severalKeys
  | _ => .error .noFormatName

/-- Takes over what an entry of the section sets. -/
def read (f : Format) (e : String × Value) : Except Unsuitable Format :=
  if e.1 = key then ofValue e.2 else .ok f

/-- The format of a section. -/
def ofSection (v : Value) : Except Unsuitable Format :=
  match v.section? [key] with
  | some entries => entries.foldlM read .text
  | none => .error (.mismatch (.kind v.found .output))

end Format

namespace Settings

def thresholdsKey : String := "time_service"

def outputKey : String := "output"

/-- Takes over what an entry of the root sets. -/
def read (s : Settings) (e : String × Value) : Except Unsuitable Settings :=
  if e.1 = thresholdsKey then (Thresholds.ofValue e.2).map fun thresholds => { s with thresholds }
  else if e.1 = outputKey then (Format.ofSection e.2).map fun format => { s with format }
  else .ok s

/-- The settings of a document. -/
def ofTable (t : Table) : Except Unsuitable Settings := t.foldlM read {}

end Settings

/-- Why settings could not be loaded. -/
inductive SettingsFault where
  /-- The file could not be read. -/
  | unreadable (cause : SystemError)
  /-- The file is no document. -/
  | malformed
  /-- The document holds no settings. -/
  | unsuitable (u : Unsuitable)
  deriving DecidableEq

namespace SettingsFault

def message : SettingsFault → String
  | unreadable cause => cause.message
  | malformed => "TOML parse error"
  | unsuitable u => "TOML parse error: " ++ u.message

end SettingsFault

namespace Settings

/-- The settings that a text stands for. -/
def ofText (s : String) : Except SettingsFault Settings :=
  match Toml.Table.ofText? .standard s.toList with
  | none => .error .malformed
  | some t => match ofTable t with
    | .ok settings => .ok settings
    | .error u => .error (.unsuitable u)

/-- The settings that the contents of a file stand for. -/
def ofBytes (bytes : ByteArray) : Except SettingsFault Settings :=
  match String.fromUTF8? bytes with
  | some s => ofText s
  | none => .error (.unreadable (.custom "stream did not contain valid UTF-8"))

end Settings

end BootClock
