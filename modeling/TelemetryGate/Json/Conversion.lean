import TelemetryGate.Form

/-!
# Records from JSON values

The same forms as in JSON text, filled from a value that is read already.

* `toKind`     the value of a slot;
* `toRecord`   a record, from an object or a list.
-/

namespace TelemetryGate.Json

/-- What a reader that wants something else says it met. -/
def found : Json → Found
  | null => .nothing
  | flag b => .flag b
  | whole n => .whole n
  | real x => .real x
  | text s => .text s
  | list _ => .list
  | object _ => .map

def toTexts : List (String × Json) → Except Mismatch (Members String)
  | [] => .ok []
  | (k, text s) :: rest => (toTexts rest).map fun ms => (k, s) :: ms
  | (_, v) :: _ => .error (.kind v.found "a string")

def toKind : (k : Kind) → Json → Except Mismatch k.El
  | .text, text s => .ok s
  | .path, text s => .ok s
  | .flag, flag b => .ok b
  | .whole limit wanted, whole n =>
    if 0 ≤ n ∧ n ≤ limit then .ok n.toNat else .error (.range (.whole n) wanted)
  | .properties, object ms => .ok ms
  | .texts, object ms => toTexts ms
  | .optional _, null => .ok none
  | .optional k, v => (toKind k v).map some
  | .textOrEmpty, null => .ok ""
  | .textOrEmpty, text s => .ok s
  | k, v => .error (.kind v.found k.wanted)

variable {κ : Type} {El : κ → Type} {ρ : Type}

/-- A record from an object or a list. -/
def toRecord (convert : (k : κ) → Json → Except Mismatch (El k)) (form : Form κ El ρ) :
    Json → Except Mismatch ρ
  | object ms => form.fillMembers id (fun _ => convert) [] form.blank ms
  | list vs =>
    match Form.fillItems id (fun _ => convert) form.wantedLength 0 form.blank form.slots vs with
    | .error m => .error m
    | .ok (record, []) => .ok record
    | .ok (_, _ :: _) => .error (.length vs.length "fewer elements in array")
  | v => .error (.kind v.found form.wanted)

end TelemetryGate.Json
