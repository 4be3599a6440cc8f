import TelemetryGate.Json
import TelemetryGate.Decimal.Notation

/-!
# Printing JSON

* `Json.quote`         a text in quotes: `"`, `\` and the controls below U+0020 are escaped, all
                       else stands for itself;
* `Json.compact`       a value without blanks;
* `Json.record`        an object with its members in the order given;
* `Json.indented`      an object with a member on each line.
-/

namespace TelemetryGate.Json

/-! ### texts -/

def hexDigit (n : Nat) : Char := if n < 10 then Char.ofNat (48 + n) else Char.ofNat (87 + n)

def escape (c : Char) : List Char :=
  if c = '"' then ['\\', '"']
  else if c = '\\' then ['\\', '\\']
  else if c = '\x08' then ['\\', 'b']
  else if c = '\x0c' then ['\\', 'f']
  else if c = '\n' then ['\\', 'n']
  else if c = '\r' then ['\\', 'r']
  else if c = '\t' then ['\\', 't']
  else if c.toNat < 0x20 then
    ['\\', 'u', '0', '0', hexDigit (c.toNat / 16), hexDigit (c.toNat % 16)]
  else [c]

def quote (s : String) : String := "\"" ++ String.ofList (s.toList.flatMap escape) ++ "\""

/-! ### values -/

mutual

/-- The text of a value, without blanks. -/
def compact : Json → String
  | null => "null"
  | flag b => if b then "true" else "false"
  | whole n => toString n
  | real x => Decimal.jsonForm.write x
  | text s => quote s
  | list items => "[" ++ String.intercalate "," (compactItems items) ++ "]"
  | object members => "\x7b" ++ String.intercalate "," (compactMembers members) ++ "\x7d"

def compactItems : List Json → List String
  | [] => []
  | v :: rest => compact v :: compactItems rest

def compactMembers : List (String × Json) → List String
  | [] => []
  | (k, v) :: rest => (quote k ++ ":" ++ compact v) :: compactMembers rest

end

/-- An object whose members are printed already, in the order given. -/
def record (members : List (String × String)) : String :=
  "\x7b" ++ String.intercalate "," (members.map fun m => quote m.1 ++ ":" ++ m.2) ++ "\x7d"

/-- An object whose members are printed already, one on each line. -/
def indented (members : List (String × String)) : String :=
  if members.isEmpty then "\x7b\x7d"
  else "\x7b\n" ++ String.intercalate ",\n" (members.map fun m => "  " ++ quote m.1 ++ ": " ++ m.2)
    ++ "\n\x7d"

end TelemetryGate.Json
