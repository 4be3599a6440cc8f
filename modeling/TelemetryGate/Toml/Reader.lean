import TelemetryGate.Toml.Scan
import TelemetryGate.Toml.Table

/-!
# Reading a Toml document

* `readValue`      a value that opens at most so many brackets inside one another;
* `Statement`      a line of a document;
* `readDocument`   the members of a document's outermost table.

A document that is not well formed has no reading; nothing is said about where it fails.
-/

namespace TelemetryGate.Toml

/-! ### values -/

/-- The items of a list up to its bracket, after those in `acc`, which are in reverse. -/
def readItems (item : Reader Toml) {s₀ : List Char} (acc : List Toml) (s : List Char)
    (hs : s.length ≤ s₀.length) : Option (Read Toml s₀) :=
  match aheadGap? s with
  | none => none
  | some ⟨c, rest, hr⟩ =>
    if c = ']' then some ⟨.list acc.reverse, rest, Shorter.within hr hs⟩
    else
      match item (c :: rest) with
      | none => none
      | some ⟨v, t, ht⟩ =>
        have ht := Shorter.past_front ht hr
        match aheadGap? t with
        | some ⟨',', after, ha⟩ =>
          have ha := Shorter.both ha ht
          readItems item (v :: acc) after (Shorter.within_le ha hs)
        | some ⟨']', after, ha⟩ =>
          have ha := Shorter.both ha ht
          some ⟨.list (v :: acc).reverse, after, Shorter.within ha hs⟩
        | _ => none
termination_by s.length
decreasing_by exact ha

/-- A name, or several apart by full stops, and the value after the equals sign. -/
def readPair (value : Reader Toml) (s : List Char) : Option (Read (List String × Toml) s) :=
  match scanKey? s with
  | none => none
  | some ⟨names, t, ht⟩ =>
    match ahead t with
    | some ⟨'=', rest, hr⟩ =>
      have hc := skipSpace_length rest
      (value (skipSpace rest)).map fun ⟨v, after, ha⟩ => ⟨(names, v), after, by omega⟩
    | _ => none

/-- The members of a table in braces up to its brace, put over those in `acc`. -/
def readBraces (value : Reader Toml) {s₀ : List Char} (acc : Parts) (s : List Char)
    (hs : s.length ≤ s₀.length) : Option (Read Toml s₀) :=
  have hb := skipSpace_length s
  match readPair value (skipSpace s) with
  | none => none
  | some ⟨(names, v), t, ht⟩ =>
    match acc.put v true names with
    | none => none
    | some acc =>
      have ht := Shorter.within ht hb
      match ahead t with
      | some ⟨',', rest, hr⟩ =>
        have hr := Shorter.both hr ht
        readBraces value acc rest (Shorter.within_le hr hs)
      | some ⟨'\x7d', rest, hr⟩ =>
        have hr := Shorter.both hr ht
        some ⟨.table (membersOf acc), rest, Shorter.within hr hs⟩
      | _ => none
termination_by s.length
decreasing_by exact hr

/-- A value that opens at most `depth` brackets inside one another. -/
def readValue (depth : Nat) (s : List Char) : Option (Read Toml s) :=
  match s with
  | [] => none
  | c :: rest =>
    if c = '"' || c = '\'' then (scanText? true (c :: rest)).map (Read.map .text)
    else if c = '[' then
      match depth with
      | 0 => none
      | n + 1 => readItems (readValue n) [] rest Shorter.tail_le
    else if c = '\x7b' then
      match depth with
      | 0 => none
      | n + 1 =>
        match ahead rest with
        | some ⟨'\x7d', after, h⟩ => some ⟨.table [], after, Shorter.cons_of_lt h⟩
        | _ => readBraces (readValue n) [] rest Shorter.tail_le
    else scanScalar? (c :: rest)

/-- How many brackets a document may open inside one another. -/
def maxDepth : Nat := 79

/-! ### statements -/

inductive Statement where
  | pair (names : List String) (v : Toml)
  | header (names : List String)
  | itemHeader (names : List String)

/-- The names of a header, and what follows its brackets. -/
def readHeader (brackets : Nat) (s : List Char) : Option (Read (List String) s) :=
  have hb := skipSpace_length s
  match scanKey? (skipSpace s) with
  | none => none
  | some ⟨names, t, ht⟩ =>
    have hc := skipSpace_length t
    let after := skipSpace t
    if (after.take brackets) = List.replicate brackets ']' then
      some ⟨names, after.drop brackets, by
        show ((skipSpace t).drop brackets).length < s.length
        simp only [List.length_drop]; omega⟩
    else none

def readStatement (s : List Char) : Option (Read Statement s) :=
  match s with
  | '[' :: '[' :: rest =>
    (readHeader 2 rest).map fun r =>
      (r.map .itemHeader).widen (by simp only [List.length_cons]; omega)
  | '[' :: rest =>
    (readHeader 1 rest).map fun r => (r.map .header).widen Shorter.tail_le
  | s => (readPair (readValue maxDepth) s).map fun r => r.map fun (names, v) => .pair names v

def readStatements (s : List Char) : Option (List Statement) :=
  match skipGap? s (Nat.le_refl _) with
  | none => none
  | some ⟨[], _⟩ => some []
  | some ⟨c :: rest, _h⟩ =>
    match readStatement (c :: rest) with
    | none => none
    | some ⟨statement, t, _ht⟩ =>
      match endLine? t with
      | none => none
      | some ⟨after, _ha⟩ =>
        (readStatements after).map fun more => statement :: more
termination_by s.length
decreasing_by simp only [List.length_cons] at _h _ht; omega

/-! ### documents -/

/-- Takes a statement into a document; `place` are the names of the header it stands under. -/
def take (place : List String) (ps : Parts) : Statement → Option (List String × Parts)
  | .pair names v =>
    (ps.within (fun inner => inner.put v true names) place).map fun ps => (place, ps)
  | .header names =>
    (names.getLast?.bind fun name => ps.within (·.openTable name) names.dropLast).map fun ps =>
      (names, ps)
  | .itemHeader names =>
    (names.getLast?.bind fun name => ps.within (·.openItem name) names.dropLast).map fun ps =>
      (names, ps)

def takeAll (place : List String) (ps : Parts) : List Statement → Option Parts
  | [] => some ps
  | statement :: more =>
    (take place ps statement).bind fun (place, ps) => takeAll place ps more

/-- What follows a mark of the order of bytes at the front. -/
def skipMark : List Char → List Char
  | '\uFEFF' :: rest => rest
  | s => s

def readDocument (text : String) : Option (List (String × Toml)) :=
  ((readStatements (skipMark text.toList)).bind (takeAll [] [])).map membersOf

end TelemetryGate.Toml
