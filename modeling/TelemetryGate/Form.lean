import TelemetryGate.Json
import TelemetryGate.Mismatch
import TelemetryGate.Word

/-!
# Records with named slots

A form says how a record is filled: it starts with a value for every slot, and each value read is
stored over it.  The same form is read from JSON text (`Json.readRecord`), from a JSON value
(`Json.toRecord`) and from layered settings (`Setting.toRecord`).

* `Kind`    what a slot holds;
* `Slot`    a named place in a record;
* `Form`    the slots of a record and its value before any is read;
* `Form.fillMembers`, `Form.fillItems`   a record from values under names, or in the slots' order.
-/

namespace TelemetryGate

inductive Kind where
  | text
  | flag
  /-- a number from zero to `limit`; `wanted` is its name in messages -/
  | whole (limit : Nat) (wanted : String)
  | path
  | properties
  /-- texts under names -/
  | texts
  /-- nothing, or another kind -/
  | optional (k : Kind)
  /-- a text, an absent one being empty -/
  | textOrEmpty
deriving DecidableEq

@[reducible] def Kind.El : Kind → Type
  | text => String
  | flag => Bool
  | whole _ _ => Nat
  | path => String
  | properties => Properties
  | texts => Members String
  | optional k => Option k.El
  | textOrEmpty => String

def Kind.wanted : Kind → String
  | text => "a string"
  | flag => "a boolean"
  | whole _ wanted => wanted
  | path => "path string"
  | properties => "a map"
  | texts => "a map"
  | optional k => k.wanted
  | textOrEmpty => "a string"

def Kind.word : Kind := .whole Word.most "u64"

/-- A number of things in memory, 64 bits. -/
def Kind.size : Kind := .whole Word.most "usize"

def Kind.short : Kind := .whole Word.mostShort "u16"

/-- A named place in a record `ρ`, for a value of one of the kinds `κ`. -/
structure Slot (κ : Type) (El : κ → Type) (ρ : Type) where
  name : String
  /-- another spelling of the name -/
  alsoNamed : Option String := none
  required : Bool := false
  kind : κ
  store : El kind → ρ → ρ

/-- How a record is filled. -/
structure Form (κ : Type) (El : κ → Type) (ρ : Type) where
  name : String
  /-- the record before anything is read -/
  blank : ρ
  slots : List (Slot κ El ρ)

namespace Form

variable {κ : Type} {El : κ → Type} {ρ : Type}

/-- The slot of a name, in either spelling. -/
def slot? (form : Form κ El ρ) (name : String) : Option (Slot κ El ρ) :=
  form.slots.find? fun s => s.name = name || s.alsoNamed = some name

def missing? (form : Form κ El ρ) (given : List String) : Option (Slot κ El ρ) :=
  form.slots.find? fun s => s.required && !given.contains s.name

def wanted (form : Form κ El ρ) : String := "struct " ++ form.name

/-- what a message says is wanted of a list that is too short -/
def wantedLength (form : Form κ El ρ) : String :=
  let n := form.slots.length
  s!"struct {form.name} with {n} element" ++ (if n = 1 then "" else "s")

/-! ### filling -/

variable {ν ε : Type}

/-- Stores values under names into a record; `given` are the slots that are filled.  `convert`
gives the value of a slot from what stands under a name. -/
def fillMembers (fault : Mismatch → ε) (convert : String → (k : κ) → ν → Except ε (El k))
    (form : Form κ El ρ) (given : List String) (record : ρ) :
    List (String × ν) → Except ε ρ
  | [] =>
    match form.missing? given with
    | some slot => .error (fault (.missing slot.name))
    | none => .ok record
  | (name, v) :: rest =>
    match form.slot? name with
    | none => fillMembers fault convert form given record rest
    | some slot =>
      if given.contains slot.name then .error (fault (.twice slot.name))
      else
        match convert name slot.kind v with
        | .error e => .error e
        | .ok x =>
          fillMembers fault convert form (slot.name :: given) (slot.store x record) rest

/-- Stores values into slots in their order, the first of them being the `n`th of its list; what is
left of them comes back. -/
def fillItems (fault : Mismatch → ε) (convert : Nat → (k : κ) → ν → Except ε (El k))
    (wanted : String) (n : Nat) (record : ρ) :
    List (Slot κ El ρ) → List ν → Except ε (ρ × List ν)
  | [], rest => .ok (record, rest)
  | slot :: slots, [] =>
    if slot.required then .error (fault (.length n wanted))
    else fillItems fault convert wanted n record slots []
  | slot :: slots, v :: rest =>
    match convert n slot.kind v with
    | .error e => .error e
    | .ok x => fillItems fault convert wanted (n + 1) (slot.store x record) slots rest

end Form

end TelemetryGate
