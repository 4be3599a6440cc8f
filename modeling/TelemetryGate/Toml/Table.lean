import TelemetryGate.Toml

/-!
# Tables under construction

A document adds to its tables bit by bit, and how a table came to be decides what may still be
added to it.

* `Part`        a member of a table under construction;
* `put`         a value under names apart by full stops;
* `openTable`   the table of a header;
* `openItem`    a further table of a list of tables.
-/

namespace TelemetryGate.Toml

/-- How a table came to be. -/
inductive Origin where
  /-- on the way to the table of a header -/
  | implied
  /-- on the way to a value under names apart by full stops -/
  | dotted
  /-- by a header of its own -/
  | written
deriving DecidableEq

inductive Part where
  /-- a value, to which nothing can be added -/
  | value (v : Toml)
  | table (origin : Origin) (members : List (String × Part))
  /-- a list of tables, of which the last is under construction -/
  | tables (earlier : List (List (String × Part))) (last : List (String × Part))

abbrev Parts : Type := List (String × Part)

/-- The member of a name changed by `f`, which is given what is there, if anything is. -/
def Parts.alter (name : String) (f : Option Part → Option Part) : Parts → Option Parts
  | [] => (f none).map fun p => [(name, p)]
  | (k, p) :: rest =>
    if k = name then (f (some p)).map fun p => (k, p) :: rest
    else (Parts.alter name f rest).map fun ps => (k, p) :: ps

/-- A value under names apart by full stops.  `mayHold` says whether the table at hand may be given
a value: the table of the statement itself may, and so may tables that such names made. -/
def Parts.put (v : Toml) (mayHold : Bool) : List String → Parts → Option Parts
  | [], _ => none
  | [name], ps =>
    if mayHold then
      ps.alter name fun
        | none => some (.value v)
        | some _ => none
    else none
  | name :: names, ps =>
    ps.alter name fun
      | none => (Parts.put v true names []).map (.table .dotted)
      | some (.table .dotted inner) => (Parts.put v true names inner).map (.table .dotted)
      | some (.table .implied inner) => (Parts.put v false names inner).map (.table .implied)
      | some (.tables earlier last) => (Parts.put v false names last).map (.tables earlier)
      | some (.table .written _) | some (.value _) => none

/-- The table that names lead to changed by `f`; of a list of tables it is the last. -/
def Parts.within (f : Parts → Option Parts) : List String → Parts → Option Parts
  | [], ps => f ps
  | name :: names, ps =>
    ps.alter name fun
      | none => (Parts.within f names []).map (.table .implied)
      | some (.table origin inner) => (Parts.within f names inner).map (.table origin)
      | some (.tables earlier last) => (Parts.within f names last).map (.tables earlier)
      | some (.value _) => none

/-- The table of a header, which may have been implied before. -/
def Parts.openTable (name : String) (ps : Parts) : Option Parts :=
  ps.alter name fun
    | none => some (.table .written [])
    | some (.table .implied inner) => some (.table .written inner)
    | some _ => none

def Parts.openItem (name : String) (ps : Parts) : Option Parts :=
  ps.alter name fun
    | none => some (.tables [] [])
    | some (.tables earlier last) => some (.tables (earlier ++ [last]) [])
    | some _ => none

mutual

def Part.toToml : Part → Toml
  | .value v => v
  | .table _ ps => .table (membersOf ps)
  | .tables earlier last => .list (tablesOf earlier ++ [.table (membersOf last)])

def membersOf : List (String × Part) → List (String × Toml)
  | [] => []
  | (k, p) :: rest => (k, p.toToml) :: membersOf rest

def tablesOf : List (List (String × Part)) → List Toml
  | [] => []
  | ps :: rest => .table (membersOf ps) :: tablesOf rest

end

end TelemetryGate.Toml
