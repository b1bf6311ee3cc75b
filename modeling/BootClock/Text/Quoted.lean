import BootClock.Text.Shape
/-!
# Quoting a text for a message

A message shows a text between double quotes. The quote, the backslash and the line-layout
characters get a backslash, and a character that has no shape of its own is shown by its number,
so that two different texts never look alike.
-/

namespace BootClock.Quoted

/-- The hexadecimal digits of `n`, in lower case and without leading zeros. -/
def hex (n : Nat) : List Char := Nat.toDigits 16 n

/-- One character as it stands between the quotes. -/
def shown (c : Char) : List Char :=
  match c with
  | '\x00' => ['\\', '0']
  | '\t' => ['\\', 't']
  | '\n' => ['\\', 'n']
  | '\r' => ['\\', 'r']
  | '"' => ['\\', '"']
  | '\\' => ['\\', '\\']
  | c => if hasShape c then [c] else ['\\', 'u', '\x7b'] ++ hex c.toNat ++ ['\x7d']

/-- The text between double quotes. -/
def quote (s : String) : String := String.ofList ('"' :: s.toList.flatMap shown ++ ['"'])

example : quote "a\"b\\é\n" = "\"a\\\"b\\\\é\\n\"" := by decide +kernel

end BootClock.Quoted
