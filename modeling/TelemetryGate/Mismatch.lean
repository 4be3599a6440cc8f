import TelemetryGate.Text.Quoted
import TelemetryGate.Decimal.Notation

/-!
# Values of the wrong shape

What a reader says of a value that is not the kind it wants.

* `Found`       what stands there;
* `Mismatch`    why it will not do;
* `Mismatch.message`
-/

namespace TelemetryGate

inductive Found where
  | nothing
  | flag (b : Bool)
  | whole (n : Int)
  | real (x : Float)
  | text (s : String)
  | list
  | map
deriving DecidableEq

inductive Mismatch where
  /-- a value of another kind -/
  | kind (found : Found) (wanted : String)
  /-- a value of the right kind, out of range -/
  | range (found : Found) (wanted : String)
  /-- a list of the wrong length -/
  | length (n : Nat) (wanted : String)
  /-- a member that must be there is not -/
  | missing (name : String)
  /-- a member is there twice -/
  | twice (name : String)
deriving DecidableEq

/-- The words for what stands there; an absent value has its own word in each format, a double its
own form. -/
def Found.describe (absent : String) (form : Decimal.NumberForm) : Found → String
  | nothing => absent
  | flag b => s!"boolean `{b}`"
  | whole n => s!"integer `{n}`"
  | real x => "floating point `" ++ form.write x ++ "`"
  | text s => "string " ++ Text.quoted s
  | list => "sequence"
  | map => "map"

def Mismatch.describe (absent : String) (form : Decimal.NumberForm) : Mismatch → String
  | kind found wanted =>
    "invalid type: " ++ found.describe absent form ++ ", expected " ++ wanted
  | range found wanted =>
    "invalid value: " ++ found.describe absent form ++ ", expected " ++ wanted
  | length n wanted => s!"invalid length {n}, expected " ++ wanted
  | missing name => s!"missing field `{name}`"
  | twice name => s!"duplicate field `{name}`"

/-- The message about a JSON value. -/
def Mismatch.message (m : Mismatch) : String := m.describe "null" Decimal.jsonForm

end TelemetryGate
