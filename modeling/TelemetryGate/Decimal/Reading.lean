import TelemetryGate.Decimal.Nearest

/-!
# Reading a number from a text

* `readWhole?`    a whole number with or without a sign;
* `readReal?`     a number with a point or an exponent, or the name of an exception;
* `roundHalfUp`   the whole number nearest to a double, ties away from zero.
-/

namespace TelemetryGate.Decimal

def ofDigits (ds : List Char) : Nat := ds.foldl (fun n c => 10 * n + (c.toNat - 48)) 0

/-- the number that decimal digits spell, if there is one and nothing else -/
def readDigits? (ds : List Char) : Option Nat :=
  if !ds.isEmpty && ds.all Char.isDigit then some (ofDigits ds) else none

/-- the sign before a number, whether it is a minus -/
def takeSign : List Char → Bool × List Char
  | '+' :: rest => (false, rest)
  | '-' :: rest => (true, rest)
  | s => (false, s)

def readWhole? (s : List Char) : Option Int :=
  let (negative, ds) := takeSign s
  (readDigits? ds).map fun n => if negative then -(n : Int) else n

def isExponentMark (c : Char) : Bool := c = 'e' || c = 'E'

/-- A number without a sign: digits on at least one side of the point, then perhaps an exponent. -/
def readUnsigned? (s : List Char) : Option Float :=
  let mantissa := s.takeWhile fun c => !isExponentMark c
  let power := s.drop mantissa.length
  let whole := mantissa.takeWhile (· ≠ '.')
  let places := (mantissa.drop whole.length).tail
  let power? : Option Int := if power.isEmpty then some 0 else readWhole? power.tail
  match readDigits? (whole ++ places), power? with
  | some n, some e => some (scaled n (e - places.length))
  | _, _ => none

/-- A number with or without a sign, or the name of an exception in any case. -/
def readReal? (s : List Char) : Option Float :=
  let (negative, body) := takeSign s
  let name := String.ofList (body.map Char.toLower)
  let magnitude :=
    if name = "inf" || name = "infinity" then some (Float.ofBits infinityBits.toUInt64)
    else if name = "nan" then some (Float.ofBits 0x7FF8000000000000)
    else readUnsigned? body
  magnitude.map fun x => if negative then -x else x

/-- The whole number nearest to a double, ties away from zero: no less than zero and no more than
`most`. What is not a number counts as zero. -/
def roundHalfUp (most : Nat) (x : Float) : Nat :=
  let bits := magnitudeBits x
  if isNegative x || infinityBits < bits then 0
  else if bits = infinityBits then most
  else
    let (m, e) := significand x
    let n := if 1074 ≤ e then m * twoTo (e - 1074)
      else (2 * m + twoTo (1074 - e)) / (2 * twoTo (1074 - e))
    min n most

end TelemetryGate.Decimal
