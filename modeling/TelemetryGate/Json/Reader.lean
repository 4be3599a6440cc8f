import TelemetryGate.Json
import TelemetryGate.Json.Scan

/-!
# Reading JSON values

* `nextItem`, `nextName`   to the next item of a list, the next member of an object;
* `readItems`, `readMembers`   the items and members, whatever they hold;
* `readValue`              a value that opens at most so many brackets inside one another;
* `readWhole`              a value that is the whole text.
-/

namespace TelemetryGate.Json

/-! ### between values -/

/-- To the next item of a list: what stands there, or nothing if a bracket closes the list. -/
def nextItem (first : Bool) {s₀ : List UInt8} (s : List UInt8) (hs : s.length ≤ s₀.length) :
    Except Fault (Option { t : List UInt8 // t.length ≤ s₀.length }) :=
  match ahead s with
  | none => .error ⟨.endInList, []⟩
  | some ⟨b, rest, h⟩ =>
    if b = 93 then .ok none
    else if first then .ok (some ⟨b :: rest, Shorter.front_within h hs⟩)
    else if b = 44 then
      match ahead rest with
      | none => .error ⟨.endInValue, []⟩
      | some ⟨c, after, ha⟩ =>
        if c = 93 then .error ⟨.trailingComma, after⟩
        else
          have hr := Shorter.within_le h hs
          .ok (some ⟨c :: after, Shorter.front_within ha hr⟩)
    else .error ⟨.noCommaInList, rest⟩

/-- To the next member of an object: what follows the opening quote of its name, or nothing if a
brace closes the object. -/
def nextName (first : Bool) {s₀ : List UInt8} (s : List UInt8) (hs : s.length ≤ s₀.length) :
    Except Fault (Option { t : List UInt8 // t.length < s₀.length }) :=
  match ahead s with
  | none => .error ⟨.endInObject, []⟩
  | some ⟨b, rest, h⟩ =>
    have hr := Shorter.within h hs
    if b = 125 then .ok none
    else if first then
      if b = 34 then .ok (some ⟨rest, hr⟩) else .error ⟨.keyNotText, rest⟩
    else if b = 44 then
      match ahead rest with
      | none => .error ⟨.endInValue, []⟩
      | some ⟨c, after, ha⟩ =>
        if c = 34 then .ok (some ⟨after, Shorter.both ha hr⟩)
        else if c = 125 then .error ⟨.trailingComma, after⟩
        else .error ⟨.keyNotText, after⟩
    else .error ⟨.noCommaInObject, rest⟩

def skipColon (s : List UInt8) : Except Fault { t : List UInt8 // t.length < s.length } :=
  match ahead s with
  | none => .error ⟨.endInObject, []⟩
  | some ⟨b, rest, h⟩ => if b = 58 then .ok ⟨rest, h⟩ else .error ⟨.noColon, rest⟩

/-- Past the bracket that closes a list; `s` is where its items end. -/
def closeList {s₀ : List UInt8} (s : List UInt8) (hs : s.length ≤ s₀.length) :
    Except Fault { t : List UInt8 // t.length ≤ s₀.length } :=
  match ahead s with
  | none => .error ⟨.endInList, []⟩
  | some ⟨b, rest, h⟩ =>
    if b = 93 then .ok ⟨rest, Shorter.within_le h hs⟩
    else if b = 44 then
      match ahead rest with
      | none => .error ⟨.trailingCharacters, []⟩
      | some ⟨c, after, _⟩ =>
        .error ⟨if c = 93 then .trailingComma else .trailingCharacters, after⟩
    else .error ⟨.trailingCharacters, rest⟩

def closeObject {s₀ : List UInt8} (s : List UInt8) (hs : s.length ≤ s₀.length) :
    Except Fault { t : List UInt8 // t.length ≤ s₀.length } :=
  match ahead s with
  | none => .error ⟨.endInObject, []⟩
  | some ⟨b, rest, h⟩ =>
    if b = 125 then .ok ⟨rest, Shorter.within_le h hs⟩
    else .error ⟨if b = 44 then .trailingComma else .trailingCharacters, rest⟩

/-! ### items and members -/

variable {α : Type}

/-- The items of a list from `s` on, after those in `acc`, and what follows its bracket. -/
def readItems (item : Reader α) {s₀ : List UInt8} (acc : List α) (s : List UInt8)
    (hs : s.length ≤ s₀.length) :
    Except Fault { p : List α × List UInt8 // p.2.length ≤ s₀.length } :=
  match nextItem acc.isEmpty s Shorter.same with
  | .error f => .error f
  | .ok none =>
    match closeList s hs with
    | .ok ⟨t, h⟩ => .ok ⟨(acc.reverse, t), h⟩
    | .error f => .error f
  | .ok (some ⟨t, ht⟩) =>
    match item t with
    | .ok ⟨v, after, h⟩ =>
      have ha := Shorter.within h ht
      readItems item (v :: acc) after (Shorter.within_le ha hs)
    | .error f => .error f
termination_by s.length

/-- The members of an object from `s` on, put over those in `acc`, and what follows its brace. -/
def readMembers (value : Reader α) {s₀ : List UInt8} (first : Bool) (acc : Members α)
    (s : List UInt8) (hs : s.length ≤ s₀.length) :
    Except Fault { p : Members α × List UInt8 // p.2.length ≤ s₀.length } :=
  match nextName first s Shorter.same with
  | .error f => .error f
  | .ok none =>
    match closeObject s hs with
    | .ok ⟨t, h⟩ => .ok ⟨(acc, t), h⟩
    | .error f => .error f
  | .ok (some ⟨t, ht⟩) =>
    match scanText t with
    | .error f => .error f
    | .ok ⟨name, t₁, h₁⟩ =>
      match skipColon t₁ with
      | .error f => .error f
      | .ok ⟨t₂, h₂⟩ =>
        match value t₂ with
        | .ok ⟨v, after, h₃⟩ =>
          have h₂ := Shorter.both h₃ h₂
          have h₁ := Shorter.both h₂ h₁
          have h := Shorter.both h₁ ht
          readMembers value false (Members.insert name v acc) after (Shorter.within_le h hs)
        | .error f => .error f
termination_by s.length

/-! ### values -/

def Number.toJson : Number → Json
  | .whole n => .whole n
  | .real x => .real x

def readWord (v : α) (cs : List Char) (s : List UInt8) : Except Fault (Read α (b :: s)) :=
  match scanWord cs s with
  | .ok ⟨t, h⟩ => .ok ⟨v, t, Shorter.cons h⟩
  | .error f => .error f

/-- how many brackets a text may open inside one another -/
def maxDepth : Nat := 127

/-- A value that opens at most `depth` brackets inside one another. -/
def readValue (depth : Nat) : Reader Json := fun s =>
  match ahead s with
  | none => .error ⟨.endInValue, []⟩
  | some ⟨b, rest, h⟩ =>
    Except.map (Read.widen (Shorter.front h)) <|
      if b = 'n'.toUInt8 then readWord .null ['u', 'l', 'l'] rest
      else if b = 't'.toUInt8 then readWord (.flag true) ['r', 'u', 'e'] rest
      else if b = 'f'.toUInt8 then readWord (.flag false) ['a', 'l', 's', 'e'] rest
      else if b = 45 then
        (scanNumber true rest).map fun r => (r.map Number.toJson).widen Shorter.tail_le
      else if isDigit b then (scanNumber false (b :: rest)).map fun r => r.map Number.toJson
      else if b = 34 then (scanText rest).map fun r => (r.map Json.text).widen Shorter.tail_le
      else if b = 91 then
        match depth with
        | 0 => .error ⟨.tooDeep, rest⟩
        | d + 1 => (readItems (readValue d) [] rest Shorter.same).map fun ⟨(items, t), h⟩ =>
            ⟨.list items, t, Shorter.cons h⟩
      else if b = 123 then
        match depth with
        | 0 => .error ⟨.tooDeep, rest⟩
        | d + 1 =>
          (readMembers (readValue d) true [] rest Shorter.same).map fun ⟨(members, t), h⟩ =>
            ⟨.object members, t, Shorter.cons h⟩
      else .error ⟨.noValue, rest⟩

/-- A value that is the whole text but for blanks. -/
def readWhole (read : Reader α) (s : List UInt8) : Except Fault α :=
  match read s with
  | .error f => .error f
  | .ok r =>
    match skipBlanks r.rest with
    | [] => .ok r.value
    | _ :: rest => .error ⟨.trailingCharacters, rest⟩

end TelemetryGate.Json
