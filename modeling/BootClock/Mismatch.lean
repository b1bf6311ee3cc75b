import BootClock.Decimal.Layout
import BootClock.Text.Quoted
/-!
# Values of the wrong kind

When a well-formed text does not hold what its reader wants, the message names what was found and
what was wanted. Both formats the library reads use the same wording; only the layout of a
floating-point number differs.
-/

namespace BootClock

/-- What was found. -/
inductive Found where
  | integer (n : Int)
  | float (x : Binary64)
  | boolean (b : Bool)
  | text (s : String)
  | null
  | sequence
  | map
  deriving DecidableEq, Repr

/-- What was wanted. -/
inductive Wanted where
  | signedInteger
  | unsignedInteger
  | text
  | instant
  | report
  | thresholds
  | output
  deriving DecidableEq, Repr

/-- How what was found differs from what was wanted. -/
inductive Mismatch where
  | kind (found : Found) (wanted : Wanted)
  /-- An integer, but not one of those wanted. -/
  | range (n : Int) (wanted : Wanted)
  | missing (field : String)
  | duplicate (field : String)
  /-- A sequence that ended after so many elements. -/
  | short (length : Nat)
  deriving DecidableEq, Repr

namespace Found

/-- Between backticks. -/
def ticked (s : String) : String := "`" ++ s ++ "`"

def describe (layout : Decimal.Layout) : Found → String
  | integer n => "integer " ++ ticked (Numeral.intText n)
  | float x => "floating point " ++ ticked (layout.write x)
  | boolean b => "boolean " ++ ticked (if b then "true" else "false")
  | text s => "string " ++ Quoted.quote s
  | null => "null"
  | sequence => "sequence"
  | map => "map"

end Found

def Wanted.describe : Wanted → String
  | signedInteger => "i64"
  | unsignedInteger => "u64"
  | text => "a string"
  | instant => "an RFC 3339 formatted date and time string"
  | report => "struct UptimeInfo"
  | thresholds => "struct TimeServiceConfig"
  | output => "struct OutputConfig"

def Mismatch.message (layout : Decimal.Layout) : Mismatch → String
  | kind found wanted =>
    "invalid type: " ++ found.describe layout ++ ", expected " ++ wanted.describe
  | range n wanted =>
    "invalid value: " ++ (Found.integer n).describe layout ++ ", expected " ++ wanted.describe
  | missing field => "missing field " ++ Found.ticked field
  | duplicate field => "duplicate field " ++ Found.ticked field
  | short length =>
    "invalid length " ++ Numeral.text length ++ ", expected struct UptimeInfo with 5 elements"

end BootClock
