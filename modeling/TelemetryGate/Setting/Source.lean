import TelemetryGate.Setting
import TelemetryGate.FileTree
import TelemetryGate.Mismatch
import TelemetryGate.Decimal.Reading
import TelemetryGate.Json.Reader
import TelemetryGate.Toml.Reader

/-!
# Where layers come from

* `Environment`             variables;
* `Layer.ofEnvironment`     the variables that give settings;
* `FileFormat`              how a file is written;
* `FileFormats`             what is left open about formats;
* `SourceFault`             why a file gives no layer;
* `Layer.ofFile`            a file in one of the formats that are known.
-/

namespace TelemetryGate

abbrev Environment : Type := List (String × String)

def Environment.get? (env : Environment) (name : String) : Option String := env.lookup name

/-! ### variables -/

/-- A value written in a variable: a flag or a number if it reads as one, else a text. -/
def Scalar.ofVariable (value : String) : Scalar :=
  let word := Text.lower value
  if word = "true" then .flag true
  else if word = "false" then .flag false
  else
    match Decimal.readWhole? value.toList with
    | some n =>
      if Word.isSigned n then .whole n
      else .real (Decimal.readReal? value.toList |>.getD 0)
    | none =>
      match Decimal.readReal? value.toList with
      | some x => .real x
      | none => .text value

/-- A name with a full stop for every two underscores. -/
def dotted : List Char → List Char
  | '_' :: '_' :: rest => '.' :: dotted rest
  | c :: rest => c :: dotted rest
  | [] => []

def variablePrefix : String := "calls_telemetry__"

def variableOrigin : String := "the environment"

def settingOfVariable? (v : String × String) : Option (String × Setting) :=
  let name := (Text.lower v.1).toList
  if variablePrefix.toList.isPrefixOf name then
    some (String.ofList (dotted (name.drop variablePrefix.length)),
      .single (.ofVariable v.2) (some variableOrigin))
  else none

def Layer.ofEnvironment (env : Environment) : Layer := env.filterMap settingOfVariable?

/-! ### values of files -/

mutual

/-- The setting that a JSON value gives; a whole number beyond a signed word becomes a double. -/
def Setting.ofJson (origin : Option String) : Json → Setting
  | .null => .single .nothing origin
  | .flag b => .single (.flag b) origin
  | .whole n =>
    .single (if Word.isSigned n then .whole n else .real (Decimal.scaled n.toNat 0)) origin
  | .real x => .single (.real x) origin
  | .text s => .single (.text s) origin
  | .list vs => .list (itemsOfJson origin vs) origin
  | .object ms => .table (membersOfJson origin ms) origin

def Setting.itemsOfJson (origin : Option String) : List Json → List Setting
  | [] => []
  | v :: rest => .ofJson origin v :: itemsOfJson origin rest

def Setting.membersOfJson (origin : Option String) :
    List (String × Json) → List (String × Setting)
  | [] => []
  | (name, v) :: rest => (name, .ofJson origin v) :: membersOfJson origin rest

end

mutual

/-- The setting that a Toml value gives; a date gives its text. -/
def Setting.ofToml (origin : Option String) : Toml → Setting
  | .text s => .single (.text s) origin
  | .whole n => .single (.whole n) origin
  | .real x => .single (.real x) origin
  | .flag b => .single (.flag b) origin
  | .moment s => .single (.text s) origin
  | .list vs => .list (itemsOfToml origin vs) origin
  | .table ms => .table (membersOfToml origin ms) origin

def Setting.itemsOfToml (origin : Option String) : List Toml → List Setting
  | [] => []
  | v :: rest => .ofToml origin v :: itemsOfToml origin rest

/-- The settings that the members of a table give, in the order of their names. -/
def Setting.membersOfToml (origin : Option String) : List (String × Toml) → Members Setting
  | [] => []
  | (name, v) :: rest => Members.insert name (.ofToml origin v) (membersOfToml origin rest)

end

/-! ### files -/

/-- The formats whose files are read elsewhere. -/
inductive ForeignFormat where
  | yaml
  | ini
  | ron
  | json5
deriving DecidableEq

inductive FileFormat where
  | toml
  | json
  | foreign (f : ForeignFormat)
deriving DecidableEq

namespace FileFormat

def all : List FileFormat :=
  [toml, json, foreign .yaml, foreign .ini, foreign .ron, foreign .json5]

/-- The endings of the names of files in a format, in the order in which they are tried. -/
def endings : FileFormat → List String
  | toml => ["toml"]
  | json => ["json"]
  | foreign .yaml => ["yaml", "yml"]
  | foreign .ini => ["ini"]
  | foreign .ron => ["ron"]
  | foreign .json5 => ["json5"]

def ofName? (name : String) : Option FileFormat :=
  all.find? fun f => (Path.ending? name).any fun ending => f.endings.contains ending

end FileFormat

/-- What is left open about formats: in which order they are tried for a name without an ending, and
what a text in one that is read elsewhere gives. -/
structure FileFormats where
  order : List FileFormat
  perm : order.Perm FileFormat.all
  /-- the layer of some text, with where its values come from; else what is wrong with the text -/
  read : ForeignFormat → (origin text : String) → Except String Layer
  ordered : ∀ format origin text layer, read format origin text = .ok layer → layer.Ordered

/-- Formats in the order of their list, where nothing reads those that are read elsewhere. -/
def FileFormats.own : FileFormats where
  order := FileFormat.all
  perm := .refl _
  read _ _ _ := .error "no such file can be read"
  ordered _ _ _ _ h := by cases h

inductive SourceFault where
  | absent (name : Path)
  | unknownFormat (path : Path)
  | unreadable (e : FileError)
  | notText
  /-- the file is not well formed -/
  | badToml
  | malformed (reason : String) (origin : String)
  /-- the value in the file has no members -/
  | noTable (found : Found) (origin : String)

/-- Whether a fault is in what the file says, and not in reaching it. -/
def SourceFault.isContent : SourceFault → Bool
  | badToml | malformed _ _ | noTable _ _ => true
  | _ => false

/-- A file that was found: its path from the root, and how it is written. -/
structure FoundFile where
  path : Path
  format : FileFormat

namespace FileTree

/-- The files that a name may stand for with an ending of a format after it. -/
def candidates (formats : FileFormats) (path : Path) : List FoundFile :=
  formats.order.flatMap fun f =>
    f.endings.filterMap fun ending => (Path.withEnding? path ending).map fun p => ⟨p, f⟩

/-- The file of a name: under that very name, or with an ending of a format after it. -/
def find (t : FileTree) (formats : FileFormats) (name : Path) : Except SourceFault FoundFile :=
  let path := Path.join t.homePath name
  if t.isFile path then
    match (Path.fileName? path).bind FileFormat.ofName? with
    | some format => .ok ⟨path, format⟩
    | none => .error (.unknownFormat path)
  else
    match (candidates formats path).find? fun c => t.isFile c.path with
    | some c => .ok c
    | none => .error (.absent name)

/-- What a message says of where a file is: the way to it from where relative paths start. -/
def originOf (t : FileTree) (path : Path) : String :=
  Path.ofSteps (Path.seenFrom t.home (Path.names path))

end FileTree

def foundInstead : Json → Option Found
  | .null => some .nothing
  | .flag b => some (.flag b)
  | .whole n =>
    some (if Word.isSigned n then .whole n else .real (Decimal.scaled n.toNat 0))
  | .real x => some (.real x)
  | .text s => some (.text s)
  | .list _ => some .list
  | .object _ => none

def Layer.ofText (formats : FileFormats) (format : FileFormat) (origin : String) (text : String) :
    Except SourceFault Layer :=
  match format with
  | .toml =>
    match Toml.readDocument text with
    | some ms => .ok (Setting.membersOfToml (some origin) ms)
    | none => .error .badToml
  | .json =>
    let bytes := Utf8.encode text
    match Json.readWhole (Json.readValue Json.maxDepth) bytes with
    | .error f => .error (.malformed (f.message bytes) origin)
    | .ok (.object ms) => .ok (Setting.membersOfJson (some origin) ms)
    | .ok v => .error (.noTable ((foundInstead v).getD .map) origin)
  | .foreign f => (formats.read f origin text).mapError fun reason => .malformed reason origin

def Layer.ofFile (formats : FileFormats) (t : FileTree) (name : Path) :
    Except SourceFault Layer :=
  match t.find formats name with
  | .error f => .error f
  | .ok file =>
    match t.readText? file.path with
    | .error e => .error (.unreadable e)
    | .ok none => .error .notText
    | .ok (some text) => Layer.ofText formats file.format (t.originOf file.path) text

end TelemetryGate
