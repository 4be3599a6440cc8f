import TelemetryGate.Mismatch

/-!
# Faults in JSON text

A fault is a cause and what was left of the text when it showed; line and column follow from how
much that is.

* `Cause`, `Cause.message`
* `Fault`, `Fault.message`
* `position`   the line and column after some bytes.
-/

namespace TelemetryGate.Json

inductive Cause where
  | endInValue
  | endInObject
  | endInList
  | endInText
  | noValue
  | badWord
  | noColon
  | noCommaInObject
  | noCommaInList
  | keyNotText
  | trailingComma
  | trailingCharacters
  | badNumber
  | numberRange
  | badEscape
  | control
  | badCodePoint
  | loneSurrogate
  | cutSurrogate
  | tooDeep
  | mismatch (m : Mismatch)
deriving DecidableEq

def Cause.message : Cause → String
  | endInValue => "EOF while parsing a value"
  | endInObject => "EOF while parsing an object"
  | endInList => "EOF while parsing a list"
  | endInText => "EOF while parsing a string"
  | noValue => "expected value"
  | badWord => "expected ident"
  | noColon => "expected `:`"
  | noCommaInObject => "expected `,` or `\x7d`"
  | noCommaInList => "expected `,` or `]`"
  | keyNotText => "key must be a string"
  | trailingComma => "trailing comma"
  | trailingCharacters => "trailing characters"
  | badNumber => "invalid number"
  | numberRange => "number out of range"
  | badEscape => "invalid escape"
  | control => "control character (\\u0000-\\u001F) found while parsing a string"
  | badCodePoint => "invalid unicode code point"
  | loneSurrogate => "lone leading surrogate in hex escape"
  | cutSurrogate => "unexpected end of hex escape"
  | tooDeep => "recursion limit exceeded"
  | mismatch m => m.message

/-- A cause, and what follows the place where it showed. -/
structure Fault where
  cause : Cause
  rest : List UInt8
deriving DecidableEq

/-- The line and column after the first `n` bytes: lines from one, columns in bytes. -/
def position (bytes : List UInt8) (n : Nat) : Nat × Nat :=
  (bytes.take n).foldl (fun p b => if b = 10 then (p.1 + 1, 0) else (p.1, p.2 + 1)) (1, 0)

def Fault.message (bytes : List UInt8) (f : Fault) : String :=
  let (line, column) := position bytes (bytes.length - f.rest.length)
  s!"{f.cause.message} at line {line} column {column}"

end TelemetryGate.Json
