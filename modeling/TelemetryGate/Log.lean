/-!
# Log records

* `Level`       how much a record matters;
* `LogValue`    the value of a field: a text as it is, a text in quotes, or a number;
* `LogRecord`   a record.
-/

namespace TelemetryGate

/-- How much a record matters, the most first. -/
inductive Level where
  | error
  | warn
  | info
  | debug
  | trace
deriving DecidableEq, Repr

namespace Level

def name : Level → String
  | error => "ERROR"
  | warn => "WARN"
  | info => "INFO"
  | debug => "DEBUG"
  | trace => "TRACE"

/-- how many levels matter no less -/
def rank : Level → Nat
  | error => 1
  | warn => 2
  | info => 3
  | debug => 4
  | trace => 5

end Level

inductive LogValue where
  /-- a text, written as it is -/
  | plain (s : String)
  /-- a text, written in quotes where the format has them -/
  | quoted (s : String)
  | number (n : Nat)
  | flag (b : Bool)
deriving DecidableEq

/-- A record of what happened: who says so, what, and the particulars. -/
structure LogRecord where
  level : Level
  target : String
  message : String
  fields : List (String × LogValue) := []
deriving DecidableEq

end TelemetryGate
