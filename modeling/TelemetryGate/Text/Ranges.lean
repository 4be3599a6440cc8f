/-!
# Sets of characters as ranges

A set is written as text: ranges `first-last` or single code points, in base sixteen, apart by
blanks, in rising order.

* `Ranges.ofText`    reads such a text;
* `Ranges.contains`  looks a code point up by halving.
-/

namespace TelemetryGate.Text

/-- Ranges of code points, both ends included, in rising order. -/
abbrev Ranges : Type := Array (Nat × Nat)

def hexValue? (c : Char) : Option Nat :=
  if '0' ≤ c && c ≤ '9' then some (c.toNat - 48)
  else if 'a' ≤ c && c ≤ 'f' then some (c.toNat - 87)
  else if 'A' ≤ c && c ≤ 'F' then some (c.toNat - 55)
  else none

/-- the number that digits of base sixteen spell; other characters count as zero -/
def hexNumber (digits : List Char) : Nat :=
  digits.foldl (fun n c => 16 * n + (hexValue? c).getD 0) 0

/-- The words of a text, apart by blanks and line ends, put in front of `done` in reverse. -/
def wordsOnto (done : List (List Char)) (word : List Char) : List Char → List (List Char)
  | [] => if word.isEmpty then done else word.reverse :: done
  | c :: rest =>
    if c = ' ' || c = '\n' then
      wordsOnto (if word.isEmpty then done else word.reverse :: done) [] rest
    else wordsOnto done (c :: word) rest

def words (s : String) : List (List Char) := (wordsOnto [] [] s.toList).reverse

def Ranges.ofWord (w : List Char) : Nat × Nat :=
  let first := w.takeWhile (· ≠ '-')
  match w.drop first.length with
  | _ :: last => (hexNumber first, hexNumber last)
  | [] => (hexNumber first, hexNumber first)

def Ranges.ofText (s : String) : Ranges := ((words s).map Ranges.ofWord).toArray

/-- The position of the last range among those from `lo` up to below `hi` that starts at or before
`n`. -/
def lastStart (starts : Nat → Nat) (n : Nat) (lo hi : Nat) : Nat :=
  if h : hi - lo ≤ 1 then lo
  else
    let mid := (lo + hi) / 2
    if starts mid ≤ n then lastStart starts n mid hi else lastStart starts n lo mid
termination_by hi - lo
decreasing_by all_goals omega

def Ranges.contains (rs : Ranges) (n : Nat) : Bool :=
  match rs[lastStart (fun i => (rs[i]?.map Prod.fst).getD 0) n 0 rs.size]? with
  | some (a, b) => a ≤ n && n ≤ b
  | none => false

end TelemetryGate.Text
