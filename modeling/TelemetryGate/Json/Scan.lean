import TelemetryGate.Json.Fault
import TelemetryGate.Read
import TelemetryGate.Word
import TelemetryGate.Text.Utf8
import TelemetryGate.Text.Ranges

/-!
# The words of JSON text

Blanks, words, texts and numbers.  A scanner gives what it read and what follows, which is shorter
than what it was given (`Read`).

* `skipBlanks`    past blanks;
* `scanWord`      past the letters of a fixed word;
* `scanText`      a text, from after its opening quote;
* `scanNumber`    a number, from after its sign.
-/

namespace TelemetryGate.Json

/-- The value at the front of some bytes, or the first fault. -/
abbrev Reader (α : Type) : Type := (s : List UInt8) → Except Fault (Read α s)

/-! ### blanks and words -/

/-- space, tab, line feed, carriage return -/
def isBlank (b : UInt8) : Bool := b = 32 || b = 9 || b = 10 || b = 13

def skipBlanks : List UInt8 → List UInt8
  | [] => []
  | b :: rest => if isBlank b then skipBlanks rest else b :: rest

/-- The byte after the blanks, and what follows it. -/
def ahead (s : List UInt8) : Option (Read UInt8 s) :=
  match s with
  | [] => none
  | b :: rest =>
    if isBlank b then (ahead rest).map (Read.widen Shorter.tail_le)
    else some ⟨b, rest, Shorter.tail⟩

/-- The letters of a word that must follow. -/
def scanWord : List Char → (s : List UInt8) →
    Except Fault { t : List UInt8 // t.length ≤ s.length }
  | [], s => .ok ⟨s, Shorter.same⟩
  | _ :: _, [] => .error ⟨.endInValue, []⟩
  | c :: cs, b :: rest =>
    if b = c.toUInt8 then
      match scanWord cs rest with
      | .ok ⟨t, h⟩ => .ok ⟨t, Shorter.cons_le h⟩
      | .error f => .error f
    else .error ⟨.badWord, rest⟩

/-! ### texts -/

def hexByte? (b : UInt8) : Option Nat := Text.hexValue? (Char.ofNat b.toNat)

def scanHex : Reader Nat
  | a :: b :: c :: d :: rest =>
    match hexByte? a, hexByte? b, hexByte? c, hexByte? d with
    | some a, some b, some c, some d =>
      .ok ⟨((a * 16 + b) * 16 + c) * 16 + d, rest, by simp only [List.length_cons]; omega⟩
    | _, _, _, _ => .error ⟨.badEscape, rest⟩
  | _ => .error ⟨.endInText, []⟩

/-- whether a code unit is the first of a surrogate pair -/
def isLeading (n : Nat) : Bool := 0xD800 ≤ n && n ≤ 0xDBFF

/-- whether a code unit is the second of a surrogate pair -/
def isTrailing (n : Nat) : Bool := 0xDC00 ≤ n && n ≤ 0xDFFF

def joinSurrogates (lead trail : Nat) : Char :=
  Char.ofNat (0x10000 + (lead - 0xD800) * 0x400 + (trail - 0xDC00))

def expectInPair (c : Char) : Reader Unit
  | [] => .error ⟨.endInText, []⟩
  | b :: rest =>
    if b = c.toUInt8 then .ok ⟨(), rest, Shorter.tail⟩ else .error ⟨.cutSurrogate, rest⟩

/-- The character of a code-unit escape, from after its `u`. A leading surrogate must have its
trailing one in the next escape. -/
def scanUnit (s : List UInt8) : Except Fault (Read Char s) := do
  let ⟨n, r, h⟩ ← scanHex s
  if isTrailing n then throw ⟨.loneSurrogate, r⟩
  if isLeading n then
    let ⟨_, r₁, h₁⟩ ← expectInPair '\\' r
    let ⟨_, r₂, h₂⟩ ← expectInPair 'u' r₁
    let ⟨m, r₃, h₃⟩ ← scanHex r₂
    if isTrailing m then return ⟨joinSurrogates n m, r₃, by omega⟩
    throw ⟨.loneSurrogate, r₃⟩
  return ⟨Char.ofNat n, r, h⟩

def letterEscape? (b : UInt8) : Option Char :=
  match Char.ofNat b.toNat with
  | '"' => some '"'
  | '\\' => some '\\'
  | '/' => some '/'
  | 'b' => some '\x08'
  | 'f' => some '\x0c'
  | 'n' => some '\n'
  | 'r' => some '\r'
  | 't' => some '\t'
  | _ => none

/-- The character of an escape, from after its backslash. -/
def scanEscape : Reader Char
  | [] => .error ⟨.endInText, []⟩
  | b :: rest =>
    match letterEscape? b with
    | some c => .ok ⟨c, rest, Shorter.tail⟩
    | none =>
      if b = 'u'.toUInt8 then (scanUnit rest).map (Read.widen Shorter.tail_le)
      else .error ⟨.badEscape, rest⟩

/-- The bytes up to the closing quote, escapes replaced, put in front of `acc` in reverse. -/
def scanBytes {s₀ : List UInt8} (acc : List UInt8) (s : List UInt8)
    (hs : s.length ≤ s₀.length) : Except Fault (Read (List UInt8) s₀) :=
  match s with
  | [] => .error ⟨.endInText, []⟩
  | b :: rest =>
    have hr : rest.length < s₀.length := Shorter.of_front hs
    if b = 34 then .ok ⟨acc, rest, hr⟩
    else if b = 92 then
      match scanEscape rest with
      | .ok ⟨c, after, h⟩ =>
        scanBytes ((Utf8.encode c.toString).reverse ++ acc) after (Shorter.both_le h hr)
      | .error f => .error f
    else if b < 32 then .error ⟨.control, rest⟩
    else scanBytes (b :: acc) rest (Shorter.le hr)
termination_by s.length
decreasing_by all_goals (simp only [List.length_cons]; omega)

/-- A text, from after its opening quote. Its bytes must be UTF-8; a fault shows one byte past the
first that is not. -/
def scanText (s : List UInt8) : Except Fault (Read String s) := do
  let ⟨bytes, rest, h⟩ ← scanBytes [] s Shorter.same
  match Utf8.decode? bytes.reverse with
  | some decoded => return ⟨decoded, rest, h⟩
  | none => throw ⟨.badCodePoint, (Utf8.dropText s).tail⟩

/-! ### numbers -/

/-- A number as written: whole if it has no point and no exponent and fits a word. -/
inductive Number where
  | whole (n : Int)
  | real (x : Float)

def isDigit (b : UInt8) : Bool := 48 ≤ b && b ≤ 57

def digit (b : UInt8) : Nat := b.toNat - 48

def maxWord : Nat := Word.most

/-- the largest exponent that is counted -/
def maxExponent : Nat := 0x7FFFFFFF

/-- whether the digit at hand no longer fits -/
def overflows (limit n d : Nat) : Bool := limit < n * 10 + d

def powerOfTen (n : Nat) : Float := Decimal.scaled 1 n

/-- `x / 10 ^ n`, dividing by at most `10 ^ 308` at a time. -/
def divideDown (x : Float) (n : Nat) : Float :=
  if n ≤ 308 then x / powerOfTen n
  else if x == 0 then x
  else divideDown (x / powerOfTen 308) (n - 308)
termination_by n
decreasing_by omega

/-- `m * 10 ^ e`, rounded as its factors are multiplied; nothing if it is out of range. -/
def assemble (negative : Bool) (m : Nat) (e : Int) : Option Float :=
  let x := m.toUInt64.toFloat
  let signed (y : Float) := if negative then -y else y
  if e < 0 then some (signed (divideDown x (-e).toNat))
  else if e ≤ 308 then
    let y := x * powerOfTen e.toNat
    if y.isInf then none else some (signed y)
  else if x == 0 then some (signed x)
  else none

def assembleAt (negative : Bool) (m : Nat) (e : Int) (rest : List UInt8) :
    Except Fault Number :=
  match assemble negative m e with
  | some x => .ok (.real x)
  | none => .error ⟨.numberRange, rest⟩

def skipDigits : List UInt8 → List UInt8
  | [] => []
  | b :: rest => if isDigit b then skipDigits rest else b :: rest

theorem skipDigits_length (s : List UInt8) : (skipDigits s).length ≤ s.length := by
  induction s with
  | nil => simp [skipDigits]
  | cons b rest ih =>
    unfold skipDigits
    split
    · simp only [List.length_cons]; omega
    · exact Nat.le_refl _

/-- Digits counted into `n` as long as it stays within `limit`: the number, how many were taken,
and what follows; `full` when a digit is left that no longer fits. -/
structure Digits (s : List UInt8) where
  value : Nat
  count : Nat
  rest : List UInt8
  full : Bool
  le : rest.length ≤ s.length

def takeDigits {s₀ : List UInt8} (limit n count : Nat) (s : List UInt8)
    (hs : s.length ≤ s₀.length) : Digits s₀ :=
  match s with
  | [] => ⟨n, count, [], false, by simp⟩
  | b :: rest =>
    if isDigit b then
      if overflows limit n (digit b) then ⟨n, count, b :: rest, true, hs⟩
      else
        have hr : rest.length < s₀.length := Shorter.of_front hs
        takeDigits limit (n * 10 + digit b) (count + 1) rest (Shorter.le hr)
    else ⟨n, count, b :: rest, false, hs⟩

/-- The exponent, from after its letter, and the number it completes. -/
def scanExponent (negative : Bool) (m : Nat) (e : Int) (s : List UInt8) :
    Except Fault (Read Number s) :=
  let signed : Bool × { t : List UInt8 // t.length ≤ s.length } :=
    match s with
    | b :: rest =>
      if b = 43 then (false, ⟨rest, Shorter.tail_le⟩)
      else if b = 45 then (true, ⟨rest, Shorter.tail_le⟩)
      else (false, ⟨b :: rest, Shorter.front_same⟩)
    | [] => (false, ⟨[], Shorter.nil⟩)
  match signed with
  | (_, ⟨[], _⟩) => .error ⟨.endInValue, []⟩
  | (down, ⟨b :: rest, h⟩) =>
    if isDigit b then
      let ds := takeDigits maxExponent (digit b) 1 rest Shorter.same
      have hd : ds.rest.length < s.length := by
        have := ds.le
        simp only [List.length_cons] at h
        omega
      if ds.full then
        if m ≠ 0 && !down then .error ⟨.numberRange, ds.rest.tail⟩
        else
          have ha := skipDigits_length ds.rest
          .ok ⟨.real (if negative then -0.0 else 0.0), skipDigits ds.rest, by omega⟩
      else
        let total : Int := if down then e - ds.value else e + ds.value
        match assembleAt negative m total ds.rest with
        | .ok x => .ok ⟨x, ds.rest, hd⟩
        | .error f => .error f
    else .error ⟨.badNumber, rest⟩

/-- The exponent if one follows, else the number as it stands. -/
def scanTail (negative : Bool) (m : Nat) (e : Int) {s₀ : List UInt8} (s : List UInt8)
    (hs : s.length < s₀.length) : Except Fault (Read Number s₀) :=
  match s with
  | b :: rest =>
    if b = 101 || b = 69 then
      (scanExponent negative m e rest).map (Read.widen (Shorter.of_front_lt hs))
    else
      match assembleAt negative m e (b :: rest) with
      | .ok x => .ok ⟨x, b :: rest, hs⟩
      | .error f => .error f
  | [] =>
    match assembleAt negative m e [] with
    | .ok x => .ok ⟨x, [], hs⟩
    | .error f => .error f

def scanPlaces (negative : Bool) (m : Nat) (e : Int) {s₀ : List UInt8} (s : List UInt8)
    (hs : s.length < s₀.length) : Except Fault (Read Number s₀) :=
  let ds := takeDigits maxWord m 0 s Shorter.same
  have hd := ds.le
  if ds.full then
    have hk := skipDigits_length ds.rest
    scanTail negative ds.value (e - ds.count) (skipDigits ds.rest) (by omega)
  else if ds.count = 0 then
    match ds.rest with
    | [] => .error ⟨.endInValue, []⟩
    | _ :: rest => .error ⟨.badNumber, rest⟩
  else scanTail negative ds.value (e - ds.count) ds.rest (by omega)

/-- What follows the digits before a point: places, an exponent or nothing. -/
def scanAfterWhole (negative : Bool) (m : Nat) (full : Bool) (dropped : Nat) {s₀ : List UInt8}
    (s : List UInt8) (hs : s.length < s₀.length) : Except Fault (Read Number s₀) :=
  match s with
  | b :: rest =>
    if b = 46 then
      scanPlaces negative m dropped rest (by simp only [List.length_cons] at hs; omega)
    else if b = 101 || b = 69 || full then scanTail negative m dropped (b :: rest) hs
    else .ok ⟨wholeOrReal, b :: rest, hs⟩
  | [] => if full then scanTail negative m dropped [] hs else .ok ⟨wholeOrReal, [], hs⟩
where
  /-- a negative zero and a negative number below every word are doubles -/
  wholeOrReal : Number :=
    if negative then
      if m = 0 || Word.signLimit < m then .real (-m.toUInt64.toFloat) else .whole (-(m : Int))
    else .whole m

def scanNumber (negative : Bool) (s : List UInt8) : Except Fault (Read Number s) :=
  match s with
  | [] => .error ⟨.endInValue, []⟩
  | b :: rest =>
    if b = 48 then
      match rest with
      | c :: after =>
        if isDigit c then .error ⟨.badNumber, after⟩
        else scanAfterWhole negative 0 false 0 (c :: after) (by simp)
      | [] => scanAfterWhole negative 0 false 0 [] (by simp)
    else if isDigit b then
      let ds := takeDigits maxWord (digit b) 1 rest Shorter.same
      have hd := ds.le
      if ds.full then
        have hk := skipDigits_length ds.rest
        scanAfterWhole negative ds.value true (ds.rest.length - (skipDigits ds.rest).length)
          (skipDigits ds.rest) (by simp only [List.length_cons]; omega)
      else scanAfterWhole negative ds.value false 0 ds.rest
        (by simp only [List.length_cons]; omega)
    else .error ⟨.badNumber, rest⟩

end TelemetryGate.Json
