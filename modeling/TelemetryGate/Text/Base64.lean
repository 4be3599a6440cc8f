/-!
# Bytes as text of sixty-four letters

Three bytes make four letters; a last group that is short is filled up with equals signs.

* `Base64.encode`
-/

namespace TelemetryGate.Base64

def letter (n : Nat) : Char :=
  if n < 26 then Char.ofNat (65 + n)
  else if n < 52 then Char.ofNat (71 + n)
  else if n < 62 then Char.ofNat (n - 4)
  else if n = 62 then '+'
  else '/'

def letterAt (place n : Nat) : Char := letter ((n >>> (6 * place)) % 64)

def encodeChars : List UInt8 → List Char
  | [] => []
  | [a] =>
    let n := a.toNat * 65536
    [letterAt 3 n, letterAt 2 n, '=', '=']
  | [a, b] =>
    let n := a.toNat * 65536 + b.toNat * 256
    [letterAt 3 n, letterAt 2 n, letterAt 1 n, '=']
  | a :: b :: c :: rest =>
    let n := a.toNat * 65536 + b.toNat * 256 + c.toNat
    letterAt 3 n :: letterAt 2 n :: letterAt 1 n :: letterAt 0 n :: encodeChars rest

def encode (bytes : List UInt8) : String := String.ofList (encodeChars bytes)

end TelemetryGate.Base64
