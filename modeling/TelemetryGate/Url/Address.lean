import TelemetryGate.Text.Ranges

/-!
# Internet addresses in urls

* `readV4?`, `v4Text`   four bytes; parts may be octal or hexadecimal, the last one may fill what is
                        left;
* `readV6?`, `v6Text`   eight pieces of sixteen bits, the longest run of zeros cut short.
-/

namespace TelemetryGate.Url

open Text

/-! ### four bytes -/

/-- the number that digits of a base spell, if all of them are digits of it -/
def numberIn? (base : Nat) (cs : List Char) : Option Nat :=
  cs.foldl (fun n? c =>
    match n?, hexValue? c with
    | some n, some d => if d < base then some (base * n + d) else none
    | _, _ => none) (some 0)

/-- A part of an address: `0x` stands before hexadecimal, `0` before octal digits. -/
def partNumber? : List Char → Option Nat
  | [] => none
  | '0' :: 'x' :: rest => numberIn? 16 rest
  | '0' :: 'X' :: rest => numberIn? 16 rest
  | '0' :: c :: rest => numberIn? 8 (c :: rest)
  | cs => numberIn? 10 cs

/-- the parts of a name, without an empty one at the end -/
def addressParts (name : List Char) : List (List Char) :=
  let parts := name.splitOn '.'
  if parts.getLast? = some [] && parts.length ≠ 1 then parts.dropLast else parts

/-- Whether a name must be an address: its last part is a number. -/
def endsInNumber (name : List Char) : Bool :=
  match (addressParts name).getLast? with
  | none => false
  | some last => (!last.isEmpty && last.all Char.isDigit) || (partNumber? last).isSome

def readV4? (name : List Char) : Option Nat :=
  let parts := addressParts name
  if 4 < parts.length then none
  else
    match (parts.mapM partNumber?).map List.reverse with
    | some (last :: before) =>
      if Nat.pow 256 (4 - before.length) ≤ last || before.any (255 < ·) then none
      else some (before.reverse.zipIdx.foldl (fun n p => n + p.1 * Nat.pow 256 (3 - p.2)) last)
    | _ => none

def v4Text (n : Nat) : String :=
  let part (k : Nat) : String := toString (n / Nat.pow 256 k % 256)
  part 3 ++ "." ++ part 2 ++ "." ++ part 1 ++ "." ++ part 0

/-! ### eight pieces -/

/-- a decimal number below 256 without zeros before it -/
def byteNumber? (cs : List Char) : Option Nat :=
  match cs with
  | [] => none
  | '0' :: _ :: _ => none
  | cs => (numberIn? 10 cs).bind fun n => if n < 256 then some n else none

def lastPieces? (cs : List Char) : Option (List Nat) :=
  match (cs.splitOn '.').mapM byteNumber? with
  | some [a, b, c, d] => some [a * 256 + b, c * 256 + d]
  | _ => none

/-- The pieces on one side of a gap. -/
def pieces? : List (List Char) → Option (List Nat)
  | [] => some []
  | [g] =>
    if g.contains '.' then lastPieces? g
    else if g.isEmpty || 4 < g.length then none
    else (numberIn? 16 g).map fun n => [n]
  | g :: rest =>
    if g.isEmpty || 4 < g.length then none
    else
      match numberIn? 16 g, pieces? rest with
      | some n, some ns => some (n :: ns)
      | _, _ => none

/-- What stands before and after the first double colon. -/
def splitAtGap (before : List Char) : List Char → Option (List Char × List Char)
  | ':' :: ':' :: rest => some (before.reverse, rest)
  | c :: rest => splitAtGap (c :: before) rest
  | [] => none

/-- the groups of digits between colons; none in an empty text -/
def groups (cs : List Char) : List (List Char) := if cs.isEmpty then [] else cs.splitOn ':'

def readV6? (cs : List Char) : Option (List Nat) :=
  match splitAtGap [] cs with
  | none =>
    (pieces? (groups cs)).bind fun ps => if ps.length = 8 then some ps else none
  | some (l, r) =>
    -- four bytes may only stand last
    if l.contains '.' then none
    else
      match pieces? (groups l), pieces? (groups r) with
      | some ls, some rs =>
        let n := ls.length + rs.length
        if n ≤ 7 then some (ls ++ List.replicate (8 - n) 0 ++ rs) else none
      | _, _ => none

def zeros (ps : List Nat) : Nat := (ps.takeWhile (· = 0)).length

/-- Where the first longest run of zeros starts and how long it is. -/
def longestZeros (ps : List Nat) : Nat × Nat :=
  (List.range ps.length).foldl (fun best i =>
    let n := zeros (ps.drop i)
    if best.2 < n then (i, n) else best) (0, 0)

/-- Pieces in base sixteen, the first longest run of two or more zeros left out. -/
def v6Text (ps : List Nat) : String :=
  let text (qs : List Nat) : String :=
    String.intercalate ":" (qs.map fun n => String.ofList (Nat.toDigits 16 n))
  let (i, n) := longestZeros ps
  if n < 2 then text ps else text (ps.take i) ++ "::" ++ text (ps.drop (i + n))

end TelemetryGate.Url
