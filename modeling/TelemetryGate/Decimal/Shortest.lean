import TelemetryGate.Decimal.Nearest

/-!
# The fewest digits that read back

A double is the value of every real that rounds to it.  `shortest x` is the decimal with the
fewest digits among them, of those the nearest to `x`, a tie going to the even digit.

* `Decimal`      `digits * 10 ^ exponent`;
* `shortest`     the decimal of a finite double's magnitude;
* `Decimal.top`  the power of ten of the first digit.
-/

namespace TelemetryGate

/-- The number `digits * 10 ^ exponent`. -/
structure Decimal where
  digits : Nat
  exponent : Int
deriving DecidableEq, Repr

namespace Decimal

def digitCount (n : Nat) : Nat := (Nat.toDigits 10 n).length

/-- the power of ten of the first digit -/
def top (d : Decimal) : Int := d.exponent + digitCount d.digits - 1

def trim (d : Decimal) : Decimal :=
  if h : d.digits ≠ 0 ∧ d.digits % 10 = 0 then trim ⟨d.digits / 10, d.exponent + 1⟩ else d
termination_by d.digits
decreasing_by omega

/-- The greatest `p` with `10 ^ p ≤ num / den`. -/
def floorLog10 (num den : Nat) : Int :=
  if den ≤ num then digitCount (num / den) - 1
  else -(digitCount ((den + num - 1) / num - 1) : Int)

/-- The reals that round to a double: `low`, `value` and `high` in units of `2 ^ unit`, the ends
belonging to it when `closed`. -/
structure Rounding where
  low : Nat
  value : Nat
  high : Nat
  unit : Int
  closed : Bool

/-- Halfway to either neighbour; below a power of two the neighbours stand closer. -/
def Rounding.ofDouble (x : Float) : Rounding :=
  let (m, e) := significand x
  { low := 4 * m - (if m = hiddenBit ∧ 0 < e then 1 else 2)
    value := 4 * m
    high := 4 * m + 2
    unit := (e : Int) - 1076
    closed := m % 2 = 0 }

/-- the numerator and denominator of `2 ^ unit / 10 ^ s` -/
def Rounding.scale (r : Rounding) (s : Int) : Nat × Nat :=
  (twoTo r.unit.toNat * tenTo (-s).toNat, twoTo (-r.unit).toNat * tenTo s.toNat)

def Rounding.holds (r : Rounding) (s : Int) (c : Nat) : Bool :=
  let (a, b) := r.scale s
  if r.closed then r.low * a ≤ c * b && c * b ≤ r.high * a
  else r.low * a < c * b && c * b < r.high * a

/-- The multiple of `10 ^ s` that rounds to the double and is nearest to it, if there is one: only
the two neighbours of the value on this grid have to be tried. -/
def Rounding.onGrid (r : Rounding) (s : Int) : Option Nat :=
  let (a, b) := r.scale s
  let v := r.value * a
  let c := v / b
  match r.holds s c, r.holds s (c + 1) with
  | true, true =>
    let below := v - c * b
    let above := (c + 1) * b - v
    if below < above then some c
    else if above < below then some (c + 1)
    else some (c + c % 2)
  | true, false => some c
  | false, true => some (c + 1)
  | false, false => none

def Rounding.search (r : Rounding) (s : Int) : Nat → Decimal
  | 0 => ⟨(r.value * (r.scale s).1) / (r.scale s).2, s⟩
  | n + 1 =>
    match r.onGrid s with
    | some c => ⟨c, s⟩
    | none => r.search (s - 1) n

/-- The fewest digits that read back. Seventeen always do. -/
def shortest (x : Float) : Decimal :=
  let r := Rounding.ofDouble x
  if r.value = 0 then ⟨0, 0⟩
  else
    let (a, b) := r.scale 0
    (r.search (floorLog10 (r.value * a) b) 17).trim

end Decimal

end TelemetryGate
