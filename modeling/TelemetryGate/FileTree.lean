import TelemetryGate.Path
import TelemetryGate.Text.Utf8

/-!
# Files

* `FileTree`            files and directories, and where relative paths start;
* `FileTree.read`       the bytes of a file;
* `FileTree.append`     bytes after those of a file, which is made if need be;
* `FileTree.makeDir`    a directory in one that is there;
* `FileTree.makeDirs`   a directory and those on the way to it.
-/

namespace TelemetryGate

inductive FileError where
  | notFound
  | taken
  | notDirectory
  | isDirectory
deriving DecidableEq

def FileError.message : FileError → String
  | notFound => "No such file or directory (os error 2)"
  | taken => "File exists (os error 17)"
  | notDirectory => "Not a directory (os error 20)"
  | isDirectory => "Is a directory (os error 21)"

inductive Entry where
  | file (bytes : List UInt8)
  | directory
deriving DecidableEq

/-- A place: the names from the root to it. -/
abbrev Place : Type := List String

/-- Files and directories by place; relative paths start at `home`. -/
structure FileTree where
  home : Place
  entries : List (Place × Entry) := []

namespace FileTree

def homePath (t : FileTree) : Path := "/" ++ Path.ofSteps t.home

def at? (t : FileTree) (place : Place) : Option Entry :=
  if place = [] then some .directory else t.entries.lookup place

def set (place : Place) (e : Entry) (t : FileTree) : FileTree :=
  { t with entries := (place, e) :: t.entries.filter (·.1 ≠ place) }

/-- The place that steps lead to; all but the last must lead through directories. -/
def walk (t : FileTree) (place : Place) : List String → Except FileError Place
  | [] => .ok place
  | step :: steps =>
    match t.at? place with
    | none => .error .notFound
    | some (.file _) => .error .notDirectory
    | some .directory =>
      walk t (if step = "." then place else if step = ".." then place.dropLast else place ++ [step])
        steps

def start (t : FileTree) (p : Path) : Place := if p.isAbsolute then [] else t.home

/-- The place that a path leads to. What stands before a slash at its end must be a directory. -/
def locate (t : FileTree) (p : Path) : Except FileError Place :=
  if p = "" then .error .notFound
  else
    t.walk (t.start p) (p.steps ++ if p.endsInSlash then ["."] else [])

def look (t : FileTree) (p : Path) : Except FileError Entry :=
  match t.locate p with
  | .error e => .error e
  | .ok place =>
    match t.at? place with
    | some e => .ok e
    | none => .error .notFound

def isFile (t : FileTree) (p : Path) : Bool :=
  match t.look p with
  | .ok (.file _) => true
  | _ => false

def reaches (t : FileTree) (p : Path) : Bool := (t.look p).isOk

def read (t : FileTree) (p : Path) : Except FileError (List UInt8) :=
  match t.look p with
  | .ok (.file bytes) => .ok bytes
  | .ok .directory => .error .isDirectory
  | .error e => .error e

/-! ### what is made -/

/-- Where something new may stand at the end of some steps: its place, which lies in a directory.
The last step must be a name; else it leads to a directory that is there. -/
def room (t : FileTree) (start : Place) (steps : List String) : Except FileError (Option Place) :=
  match steps.getLast? with
  | none => .ok none
  | some name =>
    -- the step to where one is goes on from a directory alone
    (t.walk start (steps.dropLast ++ ["."])).map fun place =>
      if name = "." || name = ".." then none else some (place ++ [name])

/-- Puts bytes after those of a file, which is made if need be. -/
def append (bytes : List UInt8) (p : Path) (t : FileTree) : Except FileError FileTree :=
  if p = "" then .error .notFound
  else
    match t.room (t.start p) p.steps with
    | .error e => .error e
    | .ok none => .error .isDirectory
    | .ok (some place) =>
      if p.endsInSlash then .error .isDirectory
      else
        match t.at? place with
        | some .directory => .error .isDirectory
        | some (.file before) => .ok (t.set place (.file (before ++ bytes)))
        | none => .ok (t.set place (.file bytes))

def makeDir (start : Place) (steps : List String) (t : FileTree) : Except FileError FileTree :=
  match t.room start steps with
  | .error e => .error e
  | .ok none => .error .taken
  | .ok (some place) =>
    match t.at? place with
    | some _ => .error .taken
    | none => .ok (t.set place .directory)

/-- What comes of making directories: why one cannot be made, if so, and the files after it. -/
structure Made where
  fault : Option FileError := none
  files : FileTree

/-- What comes of making a directory, where it does no harm if there is one. -/
def Made.ofDir (start : Place) (steps : List String) (t : FileTree) : Made :=
  match t.makeDir start steps with
  | .ok files => { files }
  | .error e =>
    let isThere := match t.walk start (steps ++ ["."]) with
      | .ok _ => true
      | .error _ => false
    { fault := if e = .taken && isThere then none else some e, files := t }

/-- Makes a directory; if there is nothing to make it in, that directory first. The steps to it are
in reverse. Directories that were made stay, whatever comes after. -/
def makeAlong (start : Place) (t : FileTree) : List String → Made
  | [] => { files := t }
  | step :: before =>
    let made := Made.ofDir start (step :: before).reverse t
    if made.fault ≠ some .notFound then made
    else
      let way := makeAlong start t before
      if way.fault.isSome then way else .ofDir start (step :: before).reverse way.files

/-- Makes a directory and those on the way to it, where they are not. -/
def makeDirs (t : FileTree) (p : Path) : Made := makeAlong (t.start p) t p.names.reverse

/-- The text of a file; bytes that are none have no text. -/
def readText? (t : FileTree) (p : Path) : Except FileError (Option String) :=
  (t.read p).map Utf8.decode?

end FileTree

end TelemetryGate
