import TelemetryGate.Decimal.Shortest

/-!
# Writing a double

The digits are the shortest that read back; a `Notation` says how they are set out.

* `NumberForm`        which exponents are positional, whether a whole number keeps `.0`;
* `NumberForm.write`  the text of a double;
* `jsonForm`, `plainForm`, `pointedForm`  the forms in use.
-/

namespace TelemetryGate.Decimal

/-- How the digits of a double are set out. -/
structure NumberForm where
  /-- the powers of ten of the first digit that are written without an exponent -/
  positional : Int → Bool
  /-- whether a whole number is followed by `.0` -/
  keepPoint : Bool
  /-- the sign that stands before a positive exponent -/
  plus : String
  infinite : String
  notNumber : String

/-- the digits with a point after the power of ten zero -/
def positionalText (keepPoint : Bool) (d : Decimal) : String :=
  let ds := Nat.toDigits 10 d.digits
  let whole := if keepPoint then ".0" else ""
  if 0 ≤ d.exponent then
    String.ofList (ds ++ List.replicate d.exponent.toNat '0') ++ whole
  else
    let places := (-d.exponent).toNat
    if ds.length ≤ places then
      "0." ++ String.ofList (List.replicate (places - ds.length) '0' ++ ds)
    else
      String.ofList (ds.take (ds.length - places)) ++ "."
        ++ String.ofList (ds.drop (ds.length - places))

/-- one digit, the other digits after a point, and the power of ten of the first -/
def exponentText (plus : String) (d : Decimal) : String :=
  let ds := Nat.toDigits 10 d.digits
  let sign := if 0 ≤ d.top then plus else "-"
  String.ofList (ds.take 1)
    ++ (if ds.length ≤ 1 then "" else "." ++ String.ofList (ds.drop 1))
    ++ "e" ++ sign ++ toString d.top.natAbs

def NumberForm.write (form : NumberForm) (x : Float) : String :=
  let sign := if isNegative x then "-" else ""
  let bits := magnitudeBits x
  if infinityBits < bits then form.notNumber
  else if bits = infinityBits then sign ++ form.infinite
  else
    let d := shortest x
    sign ++ (if form.positional d.top then positionalText form.keepPoint d
      else exponentText form.plus d)

/-- In JSON the first digit's power is from -5 to 15 without an exponent, a whole number keeps
`.0`, and an exponent always has its sign. -/
def jsonForm : NumberForm :=
  { positional := fun p => -5 ≤ p && p < 16
    keepPoint := true, plus := "+", infinite := "null", notNumber := "null" }

/-- In a text setting there is never an exponent and a whole number is written as one. -/
def plainForm : NumberForm :=
  { positional := fun _ => true
    keepPoint := false, plus := "", infinite := "inf", notNumber := "NaN" }

/-- In a message about a setting there is never an exponent and a whole number keeps `.0`. -/
def pointedForm : NumberForm := { plainForm with keepPoint := true }

end TelemetryGate.Decimal
