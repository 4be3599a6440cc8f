import TelemetryGate.Log
import TelemetryGate.Json.Printer
import TelemetryGate.Text.Quoted

/-!
# Log lines

* `LogFormat`         how a record is written: as text or as JSON;
* `LogRecord.text`    a record as a line of text, in colour or without;
* `LogRecord.json`    a record as an object.
-/

namespace TelemetryGate

inductive LogFormat where
  | text
  | json
deriving DecidableEq

def LogFormat.ofName? (s : String) : Option LogFormat :=
  if s = "json" then some .json else if s = "text" then some .text else none

/-! ### colour -/

/-- A text between the code that turns a display on and the one that turns it off. -/
def painted (color : Bool) (code s : String) : String :=
  if color then "\x1b[" ++ code ++ "m" ++ s ++ "\x1b[0m" else s

def faint : String := "2"

def slanted : String := "3"

def Level.colorCode : Level → String
  | error => "31"
  | warn => "33"
  | info => "32"
  | debug => "34"
  | trace => "35"

/-! ### text -/

/-- What stands for a character of a message: a control that could steer a terminal is written
out. -/
def tameChar (c : Char) : List Char :=
  if ['\x07', '\x08', '\x0c', '\x1b', '\x7f'].contains c then
    ['\\', 'x', Json.hexDigit (c.toNat / 16), Json.hexDigit (c.toNat % 16)]
  else if 0x80 ≤ c.toNat && c.toNat ≤ 0x9F then
    ['\\', 'u', '\x7b'] ++ Text.hexText c.toNat ++ ['\x7d']
  else [c]

def tame (s : String) : String := String.ofList (s.toList.flatMap tameChar)

def LogValue.text : LogValue → String
  | plain s => s
  | quoted s => Text.quoted s
  | number n => toString n
  | flag b => if b then "true" else "false"

/-- the name of a level with blanks before it, up to the width of the longest name -/
def Level.padded (l : Level) : String :=
  String.ofList (List.replicate (5 - l.name.length) ' ') ++ l.name

def LogRecord.text (color : Bool) (time : String) (r : LogRecord) : String :=
  painted color faint time ++ " " ++ painted color r.level.colorCode r.level.padded ++ " "
    ++ painted color faint r.target ++ painted color faint ":" ++ " " ++ tame r.message
    ++ String.join (r.fields.map fun (name, value) =>
        " " ++ painted color slanted name ++ painted color faint "=" ++ value.text)

/-! ### objects -/

def LogValue.json : LogValue → String
  | plain s => Json.quote s
  | quoted s => Json.quote s
  | number n => toString n
  | flag b => if b then "true" else "false"

def LogRecord.json (time : String) (r : LogRecord) : String :=
  Json.record
    [("timestamp", Json.quote time), ("level", Json.quote r.level.name),
      ("fields", Json.record (("message", Json.quote r.message)
        :: r.fields.map fun (name, value) => (name, value.json))),
      ("target", Json.quote r.target)]

end TelemetryGate
