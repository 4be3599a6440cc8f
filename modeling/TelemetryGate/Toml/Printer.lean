import TelemetryGate.Toml.Scan
import TelemetryGate.Decimal.Notation

/-!
# Writing a Toml document

* `writeText`       a text, in the first kind of quotes that needs no escape;
* `writeName`       a name, without quotes if it can do without;
* `writeValue`      a value on one line;
* `writeDocument`   the members of the outermost table, simple values before tables.
-/

namespace TelemetryGate.Toml

/-! ### texts -/

/-- whether a character must be escaped whatever the quotes; tabs and line ends need not be -/
def isControl (c : Char) : Bool := c ≠ '\t' && c ≠ '\n' && (c.toNat < 0x20 || c.toNat = 0x7F)

/-- the length of the longest run of a character, of which `run` are at hand -/
def longestRun (q : Char) (run : Nat) : List Char → Nat
  | [] => run
  | c :: rest =>
    if c = q then longestRun q (run + 1) rest else Nat.max run (longestRun q 0 rest)

def hexDigits (width n : Nat) : List Char :=
  let ds := (Nat.toDigits 16 n).map Char.toUpper
  List.replicate (width - ds.length) '0' ++ ds

def escaped (c : Char) : List Char :=
  if c = '\x08' then ['\\', 'b']
  else if c = '\t' then ['\\', 't']
  else if c = '\n' then ['\\', 'n']
  else if c = '\x0c' then ['\\', 'f']
  else if c = '\r' then ['\\', 'r']
  else if c = '"' then ['\\', '"']
  else if c = '\\' then ['\\', '\\']
  else if isControl c then ['\\', 'u'] ++ hexDigits 4 c.toNat
  else [c]

/-- Characters over several lines inside quotes that have escapes: a line end stands for itself,
and of quotes in a row, `run` of them before here, every third is escaped. -/
def escapedLines (run : Nat) : List Char → List Char
  | [] => []
  | c :: rest =>
    if c = '"' then
      if run < 2 then '"' :: escapedLines (run + 1) rest
      else '\\' :: '"' :: escapedLines 0 rest
    else (if c = '\n' then ['\n'] else escaped c) ++ escapedLines 0 rest

def writeText (s : String) : List Char :=
  let cs := s.toList
  let control := cs.any isControl
  let slash := cs.contains '\\'
  let newline := cs.contains '\n'
  let quotes := longestRun '"' 0 cs
  let apostrophes := longestRun '\'' 0 cs
  let basic := '"' :: cs.flatMap escaped ++ ['"']
  let lines := ['"', '"', '"', '\n'] ++ escapedLines 0 cs ++ ['"', '"', '"']
  if !control && !slash && quotes = 0 && !newline then basic
  else if !control && apostrophes = 0 && !newline then '\'' :: cs ++ ['\'']
  else if !control && !slash && quotes ≤ 2 then lines
  else if !control && apostrophes ≤ 2 then
    ['\'', '\'', '\'', '\n'] ++ cs ++ ['\'', '\'', '\'']
  else if newline then lines
  else basic

def writeName (s : String) : List Char :=
  let cs := s.toList
  let control := cs.any fun c => isControl c || c = '\n'
  if !cs.isEmpty && cs.all isBare then cs
  else if !control && !cs.contains '"' && !cs.contains '\\' then '"' :: cs.flatMap escaped ++ ['"']
  else if !control && !cs.contains '\'' then '\'' :: cs ++ ['\'']
  else '"' :: cs.flatMap escaped ++ ['"']

/-! ### values -/

/-- A double keeps its point, and its exceptions are in lower case. -/
def numberForm : Decimal.NumberForm := { Decimal.pointedForm with notNumber := "nan" }

mutual

/-- A value on one line. -/
def writeValue : Toml → List Char
  | .text s => writeText s
  | .whole n => (toString n).toList
  | .real x => (numberForm.write x).toList
  | .flag b => (if b then "true" else "false").toList
  | .moment s => s.toList
  | .list items => '[' :: writeItems items ++ [']']
  | .table [] => ['\x7b', '\x7d']
  | .table (m :: ms) => '\x7b' :: ' ' :: writeMembers (m :: ms) ++ [' ', '\x7d']

def writeItems : List Toml → List Char
  | [] => []
  | [v] => writeValue v
  | v :: rest => writeValue v ++ ',' :: ' ' :: writeItems rest

def writeMembers : List (String × Toml) → List Char
  | [] => []
  | [(k, v)] => writeName k ++ ' ' :: '=' :: ' ' :: writeValue v
  | (k, v) :: rest =>
    writeName k ++ ' ' :: '=' :: ' ' :: writeValue v ++ ',' :: ' ' :: writeMembers rest

end

/-! ### documents -/

/-- The lines of the members that are no tables. -/
def writeSimple : List (String × Toml) → List Char
  | [] => []
  | (_, .table _) :: rest => writeSimple rest
  | (k, v) :: rest => writeName k ++ ' ' :: '=' :: ' ' :: writeValue v ++ '\n' :: writeSimple rest

def writePath (path : List String) : List Char :=
  ['.'].intercalate (path.map writeName)

/-- The members that are tables, each under its header, after a blank line. -/
def writeTables (path : List String) : List (String × Toml) → List Char
  | [] => []
  | (k, .table ms) :: rest =>
    '\n' :: '[' :: writePath (path ++ [k]) ++ [']', '\n'] ++ writeSimple ms
      ++ writeTables (path ++ [k]) ms ++ writeTables path rest
  | (_, _) :: rest => writeTables path rest

def writeDocument (ms : List (String × Toml)) : String :=
  String.ofList (writeSimple ms ++ writeTables [] ms)

end TelemetryGate.Toml
