/-!
# Paths

A path is a text; slashes stand between its names.

* `Path.steps`        the names along a path;
* `Path.join`         a path seen from a directory;
* `Path.fileName?`    the name at its end;
* `Path.withEnding?`  the same path with an ending after its last name;
* `Path.seenFrom`     the way from one place to another.
-/

namespace TelemetryGate

abbrev Path : Type := String

namespace Path

def isAbsolute (p : Path) : Bool := p.toList.head? = some '/'

def endsInSlash (p : Path) : Bool := p.toList.getLast? = some '/'

/-- The parts of a path between slashes, without empty ones. -/
def steps (p : Path) : List String :=
  ((p.toList.splitOn '/').filter (!·.isEmpty)).map String.ofList

/-- The parts of a path that lead somewhere. -/
def names (p : Path) : List String := p.steps.filter (· ≠ ".")

/-- A path seen from a directory. -/
def join (dir p : Path) : Path :=
  if p.isAbsolute then p
  else if dir = "" || dir.endsInSlash then dir ++ p
  else dir ++ "/" ++ p

def fileName? (p : Path) : Option String :=
  match p.names.getLast? with
  | some name => if name = ".." then none else some name
  | none => none

/-- The part of a name after its last full stop; a full stop at the front starts no ending. -/
def ending? (name : String) : Option String :=
  let back := name.toList.reverse
  let ending := back.takeWhile (· ≠ '.')
  match back.drop ending.length with
  | '.' :: _ :: _ => some (String.ofList ending.reverse)
  | _ => none

/-- A path in reverse without what follows its last name: slashes and steps to where one is. -/
def trimBack : List Char → List Char
  | '/' :: rest => trimBack rest
  | '.' :: '/' :: rest => trimBack ('/' :: rest)
  | s => s

/-- The same path with a full stop and an ending after its last name, if it has one. -/
def withEnding? (p : Path) (ending : String) : Option Path :=
  p.fileName?.map fun _ => String.ofList (trimBack p.toList.reverse).reverse ++ "." ++ ending

/-- The path of the directory that a path leads into; none of the root, empty for a lone name. -/
def parent? (p : Path) : Option Path :=
  match trimBack p.toList.reverse with
  | [] => none
  | back =>
    let dir := back.dropWhile (· ≠ '/')
    let trimmed := trimBack dir
    some (if trimmed.isEmpty && !dir.isEmpty then "/" else String.ofList trimmed.reverse)

/-- The way to a place from another, both given by the names from the root. -/
def seenFrom : List String → List String → List String
  | b :: base, a :: goal =>
    if a = b then seenFrom base goal else (b :: base).map (fun _ => "..") ++ a :: goal
  | [], goal => goal
  | base, [] => base.map fun _ => ".."

def ofSteps (steps : List String) : Path := String.intercalate "/" steps

end Path

end TelemetryGate
