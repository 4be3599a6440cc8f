import TelemetryGate.Members

/-!
# JSON values

* `Json`        a value; an object's members are sorted by name, none twice;
* `Properties`  the members of an object, which is what an event carries.
-/

namespace TelemetryGate

/-- A JSON value. A number is `whole` when it is written without point and exponent and fits a
64-bit word, signed or not; any other is `real`. -/
inductive Json where
  | null
  | flag (b : Bool)
  | whole (n : Int)
  | real (x : Float)
  | text (s : String)
  | list (items : List Json)
  | object (members : List (String × Json))
deriving Inhabited

abbrev Properties : Type := Members Json

namespace Json

/-- the member of an object, null when there is none -/
def member (name : String) : Json → Json
  | object ms => (Members.find? name ms).getD null
  | _ => null

end Json

end TelemetryGate
