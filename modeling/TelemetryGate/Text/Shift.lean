import TelemetryGate.Text.Ranges

/-!
# Tables of characters in place of others

A table is written as text: `first=target`, `first-last=target`, or `first-last+target` for every
second character of a range, in base sixteen, apart by blanks, in rising order.

* `Shift`            a range of characters and where it is moved to;
* `Shifts.ofText`    reads a table;
* `Shifts.find?`     the character in place of another.
-/

namespace TelemetryGate.Text

/-- Characters `first` to `last`, each `step`th of which has the character as far from `target` as
it is from `first` in its place. -/
structure Shift where
  first : Nat
  last : Nat
  step : Nat
  target : Nat

abbrev Shifts : Type := Array Shift

def Shift.ofWord (w : List Char) : Shift :=
  let isSign (c : Char) : Bool := c = '=' || c = '+'
  let source := w.takeWhile fun c => !isSign c
  let rest := w.drop source.length
  let (first, last) := Ranges.ofWord source
  ⟨first, last, if rest.head? = some '+' then 2 else 1, hexNumber rest.tail⟩

def Shifts.ofText (s : String) : Shifts := ((words s).map Shift.ofWord).toArray

/-- The character in place of another, if the table has one. -/
def Shifts.find? (table : Shifts) (n : Nat) : Option Nat :=
  match table[lastStart (fun i => (table[i]?.map Shift.first).getD 0) n 0 table.size]? with
  | some s =>
    if s.first ≤ n && n ≤ s.last && (n - s.first) % s.step = 0 then some (s.target + (n - s.first))
    else none
  | none => none

end TelemetryGate.Text
