import TelemetryGate.Members
import TelemetryGate.Text.Lower
import TelemetryGate.Word

/-!
# Settings in layers

A layer gives values to names; each layer goes over those before it.  Tables merge member by
member, anything else replaces what was there, and names are in lower case.

* `Scalar`, `Setting`   values, with where they come from;
* `Setting.Ordered`     the names of every table ascend;
* `Step`                a step into a setting: to a member or to an item;
* `Setting.assign`      a value under a name;
* `Setting.assignAt`    a value at the end of several steps;
* `Setting.overlay`     a layer over those before it.
-/

namespace TelemetryGate

/-- A value that has no parts. -/
inductive Scalar where
  | nothing
  | flag (b : Bool)
  | whole (n : Int)
  | real (x : Float)
  | text (s : String)

inductive Setting where
  | single (v : Scalar) (origin : Option String)
  | list (items : List Setting) (origin : Option String)
  | table (members : List (String × Setting)) (origin : Option String)

/-- The names of every table ascend, also of those inside lists. -/
inductive Setting.Ordered : Setting → Prop
  | single (v : Scalar) (origin : Option String) : Ordered (.single v origin)
  | list {items : List Setting} (origin : Option String) (all : ∀ v ∈ items, Ordered v) :
    Ordered (.list items origin)
  | table {ms : List (String × Setting)} (origin : Option String) (sorted : Members.Sorted ms)
    (all : ∀ m ∈ ms, Ordered m.2) : Ordered (.table ms origin)

abbrev Layer : Type := List (String × Setting)

def Layer.Ordered (layer : Layer) : Prop := ∀ m ∈ layer, m.2.Ordered

inductive Step where
  | name (s : String)
  /-- an item of a list; one below zero counts from the end -/
  | index (n : Int)
deriving DecidableEq

/-! ### steps -/

def Step.isNameChar (c : Char) : Bool := c.isAlphanum || c = '_' || c = '-' || c = ' '

/-- the whole number in brackets at the front, and what follows -/
def Step.readIndex? (s : List Char) : Option (Int × List Char) :=
  let (negative, s) := match s with
    | '-' :: rest => (true, rest)
    | s => (false, s)
  let ds := s.takeWhile Char.isDigit
  match s.drop ds.length with
  | ']' :: rest =>
    let n : Int := ds.foldl (fun n c => 10 * n + (c.toNat - 48 : Nat)) (0 : Int)
    let n := if negative then -n else n
    if ds.isEmpty || !Word.isSigned n then none else some (n, rest)
  | _ => none

/-- The steps that follow a first one: names after full stops, numbers in brackets. -/
def Step.readMore? (fuel : Nat) (s : List Char) : Option (List Step) :=
  match fuel, s with
  | _, [] => some []
  | 0, _ => none
  | fuel + 1, '.' :: rest =>
    let name := rest.takeWhile isNameChar
    if name.isEmpty then none
    else (readMore? fuel (rest.drop name.length)).map (.name (String.ofList name) :: ·)
  | fuel + 1, '[' :: rest =>
    (readIndex? rest).bind fun (n, after) => (readMore? fuel after).map (.index n :: ·)
  | _, _ => none

/-- The steps that a text spells, if it spells any: a name first. -/
def Step.ofText? (s : String) : Option (List Step) :=
  let cs := s.toList
  let name := cs.takeWhile isNameChar
  if name.isEmpty then none
  else (readMore? cs.length (cs.drop name.length)).map (.name (String.ofList name) :: ·)

def Step.textOf : List Step → String
  | [] => ""
  | .index n :: rest => s!"[{n}]" ++ more rest
  | .name s :: rest => s ++ more rest
where
  /-- the text of steps after others -/
  more : List Step → String
    | [] => ""
    | .index n :: rest => s!"[{n}]" ++ more rest
    | .name s :: rest => "." ++ s ++ more rest

namespace Setting

/-- a value of no origin -/
def ofScalar (v : Scalar) : Setting := .single v none

/-- The members of a table; nothing else has any. -/
def members : Setting → List (String × Setting)
  | table ms _ => ms
  | _ => []

def items : Setting → List Setting
  | list vs _ => vs
  | _ => []

/-- where a table comes from; what becomes one comes from nowhere -/
def tableOrigin : Setting → Option String
  | table _ origin => origin
  | _ => none

def listOrigin : Setting → Option String
  | list _ origin => origin
  | _ => none

def member? (name : String) (s : Setting) : Option Setting :=
  Members.find? (Text.lower name) s.members

/-- The same table with another member; what is no table becomes one. -/
def withMember (s : Setting) (name : String) (v : Setting) : Setting :=
  .table (Members.insert (Text.lower name) v s.members) s.tableOrigin

mutual

/-- Gives a value to a name: the members of a table to the names in the table there, anything else
in place of what was there. -/
def assign (name : String) (value : Setting) (root : Setting) : Setting :=
  match value with
  | .table incoming _ =>
    root.withMember name (assignAll incoming ((root.member? name).getD (.table [] none)))
  | .single v origin => root.withMember name (.single v origin)
  | .list vs origin => root.withMember name (.list vs origin)

def assignAll (incoming : List (String × Setting)) (root : Setting) : Setting :=
  match incoming with
  | [] => root
  | (name, value) :: rest => assignAll rest (assign name value root)

end

/-- The position of an item, if there is room for it. -/
def position? (n : Int) (length : Nat) : Option Nat :=
  if 0 ≤ n then some n.toNat
  else if n.natAbs ≤ length then some (length - n.natAbs)
  else none

/-- The same list with another item; it grows as far as is needed, and what is no list becomes
one. -/
def withItem (s : Setting) (i : Nat) (v : Setting) : Setting :=
  let padded := s.items ++ List.replicate (i + 1 - s.items.length) (ofScalar .nothing)
  .list (padded.set i v) s.listOrigin

def assignAt (value : Setting) : List Step → Setting → Setting
  | [], root => root
  | [.name name], root => assign name value root
  | .name name :: rest, root =>
    root.withMember name (assignAt value rest ((root.member? name).getD (ofScalar .nothing)))
  | .index n :: rest, root =>
    match position? n root.items.length with
    | none => root
    | some i =>
      let there := root.items[i]?.getD (ofScalar .nothing)
      root.withItem i (if rest.isEmpty then value else assignAt value rest there)

/-- Gives a value to a name that may spell several steps. -/
def assignNamed (root : Setting) (m : String × Setting) : Setting :=
  match Step.ofText? m.1 with
  | some steps => assignAt m.2 steps root
  | none => assign m.1 m.2 root

def overlay (root : Setting) (layer : Layer) : Setting := layer.foldl assignNamed root

end Setting

end TelemetryGate
