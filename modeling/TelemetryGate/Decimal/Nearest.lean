import TelemetryGate.Word

/-!
# The double nearest to a ratio

* `nearest num den`    the double nearest to `num / den`, ties to even;
* `scaled n e`         the double nearest to `n * 10 ^ e`;
* `significand`        a finite double as `m * 2 ^ (e - 1074)`.
-/

namespace TelemetryGate.Decimal

def twoTo (n : Nat) : Nat := Nat.pow 2 n

def tenTo (n : Nat) : Nat := Nat.pow 10 n

/-- `num / den` to the nearest whole number, ties to even. -/
def roundHalfEven (num den : Nat) : Nat :=
  let q := num / den
  let r := num % den
  if 2 * r < den then q
  else if 2 * r = den then q + q % 2
  else q + 1

/-- The greatest `k` with `2 ^ k ≤ num / den`. -/
def floorLog2 (num den : Nat) : Int :=
  let k : Int := (num.log2 : Int) - den.log2
  let fits := if 0 ≤ k then den * twoTo k.toNat ≤ num else den ≤ num * twoTo (-k).toNat
  if fits then k else k - 1

/-- the bits of positive infinity, which are above those of every finite double -/
def infinityBits : Nat := 0x7FF0000000000000

def hiddenBit : Nat := 0x10000000000000

/-- The bits of the double nearest to `num / den`: with the step `2 ^ (e - 1074)` between its
neighbours, a significand `m` has the bits `e * 2 ^ 52 + m`, the hidden bit carrying into the
exponent. -/
def nearestBits (num den : Nat) : Nat :=
  if num = 0 then 0
  else
    let e : Nat := (floorLog2 num den - 52 + 1074).toNat
    let m := if 1074 ≤ e then roundHalfEven num (den * twoTo (e - 1074))
      else roundHalfEven (num * twoTo (1074 - e)) den
    min (e * hiddenBit + m) infinityBits

def nearest (num den : Nat) : Float := Float.ofBits (nearestBits num den).toUInt64

/-- The double nearest to `n * 10 ^ e`. An exponent beyond every double is cut short. -/
def scaled (n : Nat) (e : Int) : Float :=
  let digits : Int := (Nat.toDigits 10 n).length
  if n = 0 ∨ e + digits < -400 then Float.ofBits 0
  else if 400 < e then Float.ofBits infinityBits.toUInt64
  else if 0 ≤ e then nearest (n * tenTo e.toNat) 1
  else nearest n (tenTo (-e).toNat)

/-! ### taking a double apart -/

def isNegative (x : Float) : Bool := Word.signLimit ≤ x.toBits.toNat

def magnitudeBits (x : Float) : Nat := x.toBits.toNat % Word.signLimit

/-- A finite double's magnitude is `m * 2 ^ (e - 1074)` for the pair `(m, e)`. -/
def significand (x : Float) : Nat × Nat :=
  let b := magnitudeBits x
  let e := b / hiddenBit
  if e = 0 then (b, 0) else (hiddenBit + b % hiddenBit, e - 1)

end TelemetryGate.Decimal
