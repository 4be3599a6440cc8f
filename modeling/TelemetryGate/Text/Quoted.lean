import TelemetryGate.Text.Hidden

/-!
# Quoting a text in a message

The text stands in quotes; a quote and a backslash get a backslash before them, the line controls
their letters, and what does not show its code point in braces.
-/

namespace TelemetryGate.Text

def hexText (n : Nat) : List Char := Nat.toDigits 16 n

def showChar (c : Char) : List Char :=
  if c = '"' then ['\\', '"']
  else if c = '\\' then ['\\', '\\']
  else if c = '\n' then ['\\', 'n']
  else if c = '\r' then ['\\', 'r']
  else if c = '\t' then ['\\', 't']
  else if c.toNat = 0 then ['\\', '0']
  else if shows c then [c]
  else ['\\', 'u', '\x7b'] ++ hexText c.toNat ++ ['\x7d']

/-- A text in quotes, for a message. -/
def quoted (s : String) : String := "\"" ++ String.ofList (s.toList.flatMap showChar) ++ "\""

end TelemetryGate.Text
