import TelemetryGate.Json.Scan

/-!
# Passing over a value

The value of a member that nobody asks for is read for its brackets, quotes and digits only: its
texts may hold any bytes, its numbers may be of any size and it may nest to any depth.  The open
brackets are kept in a list, so that depth costs no stack.

* `skipText`, `skipNumber`   past a text or a number;
* `Skip.step`                past one word, with the brackets it leaves open;
* `skipValue`                past a value.
-/

namespace TelemetryGate.Json

/-- What follows a part of `s`. -/
abbrev After (s : List UInt8) : Type := { t : List UInt8 // t.length < s.length }

def After.widen {s t : List UInt8} (h : t.length ≤ s.length) (a : After t) : After s :=
  ⟨a.1, Nat.lt_of_lt_of_le a.2 h⟩

/-! ### words -/

def skipEscape (s : List UInt8) : Except Fault (After s) :=
  match s with
  | [] => .error ⟨.endInText, []⟩
  | b :: rest =>
    if (letterEscape? b).isSome then .ok ⟨rest, Shorter.tail⟩
    else if b = 'u'.toUInt8 then
      match scanHex rest with
      | .ok ⟨_, t, h⟩ => .ok ⟨t, Shorter.cons_of_lt h⟩
      | .error f => .error f
    else .error ⟨.badEscape, rest⟩

def skipText {s₀ : List UInt8} (s : List UInt8) (hs : s.length ≤ s₀.length) :
    Except Fault (After s₀) :=
  match s with
  | [] => .error ⟨.endInText, []⟩
  | b :: rest =>
    have hr : rest.length < s₀.length := Shorter.of_front hs
    if b = 34 then .ok ⟨rest, hr⟩
    else if b = 92 then
      match skipEscape rest with
      | .ok ⟨after, h⟩ => skipText after (Shorter.both_le h hr)
      | .error f => .error f
    else if b < 32 then .error ⟨.control, b :: rest⟩
    else skipText rest (Shorter.le hr)
termination_by s.length
decreasing_by all_goals (simp only [List.length_cons]; omega)

theorem skipDigits_lt {b : UInt8} {rest s : List UInt8} (h : (b :: rest).length ≤ s.length) :
    (skipDigits rest).length < s.length :=
  Nat.lt_of_lt_of_le (Nat.lt_succ_of_le (skipDigits_length rest)) h

def skipExponent (s : List UInt8) : Except Fault (After s) :=
  let signed : { t : List UInt8 // t.length ≤ s.length } :=
    match s with
    | b :: rest =>
      if b = 43 || b = 45 then ⟨rest, Shorter.tail_le⟩ else ⟨b :: rest, Shorter.front_same⟩
    | [] => ⟨[], Shorter.nil⟩
  match signed with
  | ⟨[], _⟩ => .error ⟨.badNumber, []⟩
  | ⟨b :: rest, h⟩ =>
    if isDigit b then .ok ⟨skipDigits rest, skipDigits_lt h⟩
    else .error ⟨.badNumber, rest⟩

def skipTail {s₀ : List UInt8} (s : List UInt8) (hs : s.length < s₀.length) :
    Except Fault (After s₀) :=
  match s with
  | b :: rest =>
    if b = 101 || b = 69 then
      (skipExponent rest).map (After.widen (Shorter.of_front_lt hs))
    else .ok ⟨b :: rest, hs⟩
  | [] => .ok ⟨[], hs⟩

def skipPlaces {s₀ : List UInt8} (s : List UInt8) (hs : s.length < s₀.length) :
    Except Fault (After s₀) :=
  match s with
  | b :: rest =>
    if b = 46 then
      match rest with
      | c :: after =>
        if isDigit c then
          have hk := skipDigits_length after
          skipTail (skipDigits after) (by simp only [List.length_cons] at hs; omega)
        else .error ⟨.badNumber, after⟩
      | [] => .error ⟨.badNumber, []⟩
    else skipTail (b :: rest) hs
  | [] => .ok ⟨[], hs⟩

def skipNumber (s : List UInt8) : Except Fault (After s) :=
  match s with
  | [] => .error ⟨.badNumber, []⟩
  | b :: rest =>
    if b = 48 then
      match rest with
      | c :: after =>
        if isDigit c then .error ⟨.badNumber, after⟩
        else skipPlaces (c :: after) Shorter.tail
      | [] => .ok ⟨[], Shorter.tail⟩
    else if isDigit b then
      have hk := skipDigits_length rest
      skipPlaces (skipDigits rest) (by simp only [List.length_cons]; omega)
    else .error ⟨.badNumber, rest⟩

/-! ### brackets -/

inductive Bracket where
  | list
  | object
deriving DecidableEq

namespace Bracket

/-- the byte that closes it -/
def closing : Bracket → UInt8
  | list => 93
  | object => 125

/-- what is wrong when the text ends inside it -/
def endCause : Bracket → Cause
  | list => .endInList
  | object => .endInObject

/-- what is wrong when two of its items have no comma between them -/
def commaCause : Bracket → Cause
  | list => .noCommaInList
  | object => .noCommaInObject

end Bracket

/-- Where a value stands after one of its words: done, or before the next value with some brackets
open. -/
inductive Skip (s : List UInt8) where
  | done (after : After s)
  | more (opened : List Bracket) (after : After s)

def skipName {s₀ : List UInt8} (s : List UInt8) (hs : s.length < s₀.length) :
    Except Fault (After s₀) :=
  match ahead s with
  | none => .error ⟨.endInObject, []⟩
  | some ⟨b, rest, hr⟩ =>
    if b = 34 then
      match skipText rest (Shorter.le hr) with
      | .error f => .error f
      | .ok ⟨t, ht⟩ =>
        match ahead t with
        | none => .error ⟨.endInObject, []⟩
        | some ⟨c, after, ha⟩ =>
          if c = 58 then
            have h := Shorter.both ht hs
            .ok ⟨after, Shorter.both ha h⟩
          else .error ⟨.noColon, after⟩
    else .error ⟨.keyNotText, rest⟩

/-- To the next value inside the innermost bracket: past the name if it is an object. -/
def nextValue (inner : Bracket) (outer : List Bracket) {s₀ : List UInt8} (s : List UInt8)
    (hs : s.length < s₀.length) : Except Fault (Skip s₀) :=
  match inner with
  | .list => .ok (.more (inner :: outer) ⟨s, hs⟩)
  | .object => (skipName s hs).map (.more (inner :: outer))

/-- After a value: past the brackets that close here and the comma before the next value. -/
def afterValue (opened : List Bracket) {s₀ : List UInt8} (s : List UInt8)
    (hs : s.length < s₀.length) : Except Fault (Skip s₀) :=
  match opened with
  | [] => .ok (.done ⟨s, hs⟩)
  | inner :: outer =>
    match ahead s with
    | none => .error ⟨inner.endCause, []⟩
    | some ⟨b, rest, h⟩ =>
      have hr := Shorter.both h hs
      if b = 44 then nextValue inner outer rest hr
      else if b = inner.closing then afterValue outer rest hr
      else .error ⟨inner.commaCause, rest⟩

/-- After an opening bracket: past it if it closes at once. -/
def afterOpening (inner : Bracket) (outer : List Bracket) {s₀ : List UInt8} (s : List UInt8)
    (hs : s.length < s₀.length) : Except Fault (Skip s₀) :=
  match ahead s with
  | none => .error ⟨inner.endCause, []⟩
  | some ⟨b, rest, h⟩ =>
    have hr := Shorter.both h hs
    if b = inner.closing then afterValue outer rest hr
    else nextValue inner outer (b :: rest) (Shorter.front_both h hs)

/-- Past the next word of a value that stands inside the open brackets. -/
def Skip.step (opened : List Bracket) (s : List UInt8) : Except Fault (Skip s) :=
  match ahead s with
  | none => .error ⟨.endInValue, []⟩
  | some ⟨b, rest, hr⟩ =>
    have word (cs : List Char) : Except Fault (Skip s) :=
      match scanWord cs rest with
      | .ok ⟨t, h⟩ => afterValue opened t (Shorter.after h hr)
      | .error f => .error f
    if b = 'n'.toUInt8 then word ['u', 'l', 'l']
    else if b = 't'.toUInt8 then word ['r', 'u', 'e']
    else if b = 'f'.toUInt8 then word ['a', 'l', 's', 'e']
    else if b = 45 then
      match skipNumber rest with
      | .ok ⟨t, h⟩ => afterValue opened t (Shorter.both h hr)
      | .error f => .error f
    else if isDigit b then
      match skipNumber (b :: rest) with
      | .ok ⟨t, h⟩ => afterValue opened t (Shorter.past_front h hr)
      | .error f => .error f
    else if b = 34 then
      match skipText rest (Shorter.le hr) with
      | .ok ⟨t, h⟩ => afterValue opened t h
      | .error f => .error f
    else if b = 91 then afterOpening .list opened rest hr
    else if b = 123 then afterOpening .object opened rest hr
    else .error ⟨.noValue, rest⟩

/-- Past the values that the open brackets still hold. -/
def skipInside {s₀ : List UInt8} (opened : List Bracket) (s : List UInt8)
    (hs : s.length ≤ s₀.length) : Except Fault (After s₀) :=
  match Skip.step opened s with
  | .error f => .error f
  | .ok (.done ⟨t, h⟩) => .ok ⟨t, Shorter.within h hs⟩
  | .ok (.more opened' ⟨t, h⟩) => skipInside opened' t (Shorter.within_le h hs)
termination_by s.length

def skipValue (s : List UInt8) : Except Fault (After s) := skipInside [] s Shorter.same

end TelemetryGate.Json
