import TelemetryGate.Form
import TelemetryGate.Json.Reader
import TelemetryGate.Json.Skip

/-!
# Reading records from JSON text

A record is an object whose members fill its slots, or a list that fills them in order.  A member
with another name is passed over; a slot that is filled twice is a fault.

* `readKind`     the value of a slot;
* `readRecord`   a record.
-/

namespace TelemetryGate.Json

/-! ### values of another kind -/

/-- The fault of meeting something else than what is wanted: scalars are read first, a bracket is
left where it is. -/
def unwanted (wanted : String) : List UInt8 → Fault
  | [] => ⟨.endInValue, []⟩
  | b :: rest =>
    let word (found : Found) (cs : List Char) : Fault :=
      match scanWord cs rest with
      | .ok ⟨t, _⟩ => ⟨.mismatch (.kind found wanted), t⟩
      | .error f => f
    let number (negative : Bool) (s : List UInt8) : Fault :=
      match scanNumber negative s with
      | .ok ⟨.whole n, t, _⟩ => ⟨.mismatch (.kind (.whole n) wanted), t⟩
      | .ok ⟨.real x, t, _⟩ => ⟨.mismatch (.kind (.real x) wanted), t⟩
      | .error f => f
    if b = 'n'.toUInt8 then word .nothing ['u', 'l', 'l']
    else if b = 't'.toUInt8 then word (.flag true) ['r', 'u', 'e']
    else if b = 'f'.toUInt8 then word (.flag false) ['a', 'l', 's', 'e']
    else if b = 45 then number true rest
    else if isDigit b then number false (b :: rest)
    else if b = 34 then
      match scanText rest with
      | .ok ⟨s, t, _⟩ => ⟨.mismatch (.kind (.text s) wanted), t⟩
      | .error f => f
    else if b = 91 then ⟨.mismatch (.kind .list wanted), b :: rest⟩
    else if b = 123 then ⟨.mismatch (.kind .map wanted), b :: rest⟩
    else ⟨.noValue, rest⟩

/-! ### slots -/

def readText (wanted : String) : Reader String := fun s =>
  match ahead s with
  | none => .error ⟨.endInValue, []⟩
  | some ⟨b, rest, h⟩ =>
    if b = 34 then (scanText rest).map (Read.widen (Shorter.le h))
    else .error (unwanted wanted (b :: rest))

def readFlag : Reader Bool := fun s =>
  match ahead s with
  | none => .error ⟨.endInValue, []⟩
  | some ⟨b, rest, h⟩ =>
    let widen : Read Bool (b :: rest) → Read Bool s := Read.widen (Shorter.front h)
    if b = 't'.toUInt8 then (readWord true ['r', 'u', 'e'] rest).map widen
    else if b = 'f'.toUInt8 then (readWord false ['a', 'l', 's', 'e'] rest).map widen
    else .error (unwanted "a boolean" (b :: rest))

/-- A number from zero to `limit`. -/
def readWhole? (limit : Nat) (wanted : String) : Reader Nat := fun s =>
  match ahead s with
  | none => .error ⟨.endInValue, []⟩
  | some ⟨b, rest, h⟩ =>
    let within {t₀ : List UInt8} (h : t₀.length ≤ s.length) (r : Read Number t₀) :
        Except Fault (Read Nat s) :=
      match r.value with
      | .whole n =>
        if 0 ≤ n ∧ n ≤ limit then .ok ((r.map fun _ => n.toNat).widen h)
        else .error ⟨.mismatch (.range (.whole n) wanted), r.rest⟩
      | .real x => .error ⟨.mismatch (.kind (.real x) wanted), r.rest⟩
    if b = 45 then
      match scanNumber true rest with
      | .ok r => within (Shorter.le h) r
      | .error f => .error f
    else if isDigit b then
      match scanNumber false (b :: rest) with
      | .ok r => within (Shorter.front h) r
      | .error f => .error f
    else .error (unwanted wanted (b :: rest))

def readMap {α : Type} (depth : Nat) (value : Nat → Reader α) : Reader (Members α) := fun s =>
  match ahead s with
  | none => .error ⟨.endInValue, []⟩
  | some ⟨b, rest, h⟩ =>
    if b = 123 then
      match depth with
      | 0 => .error ⟨.tooDeep, rest⟩
      | d + 1 => (readMembers (value d) true [] rest Shorter.same).map fun ⟨(members, t), ht⟩ =>
          ⟨members, t, Shorter.after ht h⟩
    else .error (unwanted "a map" (b :: rest))

/-- Nothing for `null`, else a value. -/
def readOptional {α : Type} (read : Reader α) : Reader (Option α) := fun s =>
  match ahead s with
  | none => .error ⟨.endInValue, []⟩
  | some ⟨b, rest, h⟩ =>
    let widen : Read (Option α) (b :: rest) → Read (Option α) s := Read.widen (Shorter.front h)
    if b = 'n'.toUInt8 then (readWord none ['u', 'l', 'l'] rest).map widen
    else (read (b :: rest)).map fun r => widen (r.map some)

def readKind (depth : Nat) : (k : Kind) → Reader k.El
  | .text => readText "a string"
  | .flag => readFlag
  | .whole limit wanted => readWhole? limit wanted
  | .path => readText "path string"
  | .properties => readMap depth readValue
  | .texts => readMap depth fun _ => readText "a string"
  | .optional k => readOptional (readKind depth k)
  | .textOrEmpty => fun s =>
    (readOptional (readText "a string") s).map (Read.map fun t => t.getD "")

/-! ### records -/

/-- A fault of an object as a whole shows where its brace was looked for. -/
def faultInObject (m : Mismatch) (s : List UInt8) : Fault :=
  match skipBlanks s with
  | [] => ⟨.mismatch m, []⟩
  | b :: rest => ⟨.mismatch m, if b = 125 then rest else b :: rest⟩

/-- A fault of a list as a whole shows where its bracket was looked for. -/
def faultInList (m : Mismatch) (s : List UInt8) : Fault :=
  match skipBlanks s with
  | [] => ⟨.mismatch m, []⟩
  | b :: rest =>
    ⟨.mismatch m, if b = 93 then rest else if b = 44 then skipBlanks rest else b :: rest⟩

variable {κ : Type} {El : κ → Type} {ρ : Type}

/-- The members of an object from `s` on, stored into `record`; `given` are the slots that are
filled. -/
def readSlots (read : (k : κ) → Reader (El k)) (form : Form κ El ρ) (given : List String)
    {s₀ : List UInt8} (first : Bool) (record : ρ) (s : List UInt8) (hs : s.length ≤ s₀.length) :
    Except Fault { p : ρ × List UInt8 // p.2.length ≤ s₀.length } :=
  match nextName first s Shorter.same with
  | .error f => .error f
  | .ok none =>
    match form.missing? given with
    | some slot => .error (faultInObject (.missing slot.name) s)
    | none => (closeObject s hs).map fun t => ⟨(record, t.1), t.2⟩
  | .ok (some ⟨t, ht⟩) =>
    match scanText t with
    | .error f => .error f
    | .ok ⟨name, t₁, h₁⟩ =>
      match form.slot? name with
      | some slot =>
        if given.contains slot.name then .error (faultInObject (.twice slot.name) t₁)
        else
          match skipColon t₁ with
          | .error f => .error f
          | .ok ⟨t₂, h₂⟩ =>
            match read slot.kind t₂ with
            | .error f => .error f
            | .ok ⟨v, after, h₃⟩ =>
              have h₂ := Shorter.both h₃ h₂
              have h₁ := Shorter.both h₂ h₁
              have h := Shorter.both h₁ ht
              readSlots read form (slot.name :: given) false (slot.store v record) after
                (Shorter.within_le h hs)
      | none =>
        match skipColon t₁ with
        | .error f => .error f
        | .ok ⟨t₂, h₂⟩ =>
          match skipValue t₂ with
          | .error f => .error f
          | .ok ⟨after, h₃⟩ =>
            have h₂ := Shorter.both h₃ h₂
            have h₁ := Shorter.both h₂ h₁
            have h := Shorter.both h₁ ht
            readSlots read form given false record after (Shorter.within_le h hs)
termination_by s.length

/-- The items of a list from `s` on, stored into the slots in order; `n` came before. -/
def readInOrder (read : (k : κ) → Reader (El k)) (wanted : String) {s₀ : List UInt8} (n : Nat)
    (record : ρ) (s : List UInt8) (hs : s.length ≤ s₀.length) :
    List (Slot κ El ρ) → Except Fault { p : ρ × List UInt8 // p.2.length ≤ s₀.length }
  | [] => (closeList s hs).map fun t => ⟨(record, t.1), t.2⟩
  | slot :: slots =>
    match nextItem (n = 0) s Shorter.same with
    | .error f => .error f
    | .ok none =>
      if slot.required then .error (faultInList (.length n wanted) s)
      else readInOrder read wanted n record s hs slots
    | .ok (some ⟨t, ht⟩) =>
      match read slot.kind t with
      | .error f => .error f
      | .ok ⟨v, after, h⟩ =>
        have ha := Shorter.within h ht
        readInOrder read wanted (n + 1) (slot.store v record) after (Shorter.within_le ha hs) slots

/-- A record that opens at most `depth` brackets inside one another. -/
def readRecord (read : Nat → (k : κ) → Reader (El k)) (form : Form κ El ρ) (depth : Nat) :
    Reader ρ := fun s =>
  match ahead s with
  | none => .error ⟨.endInValue, []⟩
  | some ⟨b, rest, h⟩ =>
    if b = 123 || b = 91 then
      match depth with
      | 0 => .error ⟨.tooDeep, rest⟩
      | d + 1 =>
        let body := if b = 123
          then readSlots (read d) form [] true form.blank rest Shorter.same
          else readInOrder (read d) form.wantedLength 0 form.blank rest Shorter.same form.slots
        body.map fun ⟨(record, t), ht⟩ => ⟨record, t, Shorter.after ht h⟩
    else .error (unwanted form.wanted (b :: rest))

end TelemetryGate.Json
