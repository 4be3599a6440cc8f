/-!
# Toml values

* `Toml`   a value; the members of a table are in the order written.
-/

namespace TelemetryGate

inductive Toml where
  | text (s : String)
  | whole (n : Int)
  | real (x : Float)
  | flag (b : Bool)
  /-- a date, a time of day or both, in its one spelling -/
  | moment (s : String)
  | list (items : List Toml)
  | table (members : List (String × Toml))
deriving Inhabited

end TelemetryGate
