import TelemetryGate.Log
import TelemetryGate.Decimal.Reading
import TelemetryGate.Text.Alphanumeric
import TelemetryGate.Text.Blank
import TelemetryGate.Text.Utf8

/-!
# Log directives

A directive is written `target[span\x7bfield=value,…\x7d]=level`.  It may be a level alone, and a
target without a level lets every level pass.

* `Limit`                 up to which level records pass;
* `Directive`             which records are concerned, and their limit;
* `Directive.parse`       the directive that a text spells;
* `Directive.concerns`    whether a record is concerned;
* `Directive.orUpTo`      the more specific of two directives.
-/

namespace TelemetryGate

/-! ### limits -/

/-- Up to which level records pass; `none` lets nothing pass. -/
abbrev Limit : Type := Option Level

namespace Limit

/-- all limits by name; the place of a name is its number -/
def names : List (String × Limit) :=
  [("off", none), ("error", some .error), ("warn", some .warn), ("info", some .info),
    ("debug", some .debug), ("trace", some .trace)]

/-- a number may have a plus before it -/
def dropPlus : List Char → List Char
  | '+' :: rest => rest
  | cs => cs

/-- The limit that a number or a name in any case spells. -/
def ofText? (s : String) : Option Limit :=
  match Decimal.readDigits? (dropPlus s.toList) with
  | some n => names[n]?.map Prod.snd
  | none => names.lookup (s.map Char.toLower)

def admits (limit : Limit) (level : Level) : Bool := limit.any fun l => level.rank ≤ l.rank

end Limit

/-! ### directives -/

/-- Which records are concerned, and up to which level they pass. -/
structure Directive where
  /-- what the target of a record must start with -/
  target : Option String := none
  /-- the fields that a record must have -/
  fields : List String := []
  /-- whether a span or the value of a field is asked for, which no record offers -/
  isBound : Bool := false
  limit : Limit := some .trace
deriving DecidableEq

inductive DirectiveFault where
  | malformed
  | unknownLevel
deriving DecidableEq

def DirectiveFault.message : DirectiveFault → String
  | malformed => "invalid filter directive"
  | unknownLevel =>
    "error parsing level filter: expected one of \"off\", \"error\", \"warn\", \"info\", "
      ++ "\"debug\", \"trace\", or a number 0-5"

namespace Directive

/-! ### reading

The marks between the parts are looked for without the blanks around the text, and their places are
counted from there; the parts are cut from the text with its blanks.  So a blank in front is no part
of a level alone, and it shifts all other parts by one. -/

/-- A character and how many bytes stand before it. -/
abbrev Placed : Type := Nat × Char

def placed (before : Nat) : List Char → List Placed
  | [] => []
  | c :: rest => (before, c) :: placed (before + c.utf8Size) rest

/-- The part of a text from one place up to another, or up to its end. -/
def piece (whole : List UInt8) (start : Nat) (stop : Option Nat) : String :=
  Utf8.decodeLossy ((stop.elim whole fun n => whole.take n).drop start)

def fromMark (marks : List Char) (s : List Placed) : List Placed :=
  s.dropWhile fun p => !marks.contains p.2

/-- The limit after an equals sign: none stands for every level, and a comma may end it. -/
def readLimit (whole : List UInt8) (d : Directive) (start : Nat) (s : List Placed) :
    Except DirectiveFault Directive :=
  let rest := fromMark [','] s
  let text := piece whole start (rest.head?.map Prod.fst)
  match if text = "" then some (some Level.trace) else Limit.ofText? text with
  | none => .error .unknownLevel
  | some limit => if rest.length ≤ 1 then .ok { d with limit } else .error .malformed

/-- What follows a span: nothing, or a limit. -/
def readAfterSpan (whole : List UInt8) (d : Directive) :
    List Placed → Except DirectiveFault Directive
  | [] => .ok d
  | (place, '=') :: rest => readLimit whole d (place + 1) rest
  | _ => .error .malformed

/-- The same directive with one more field, or one more value of a field. -/
def withField (text : String) (d : Directive) : Directive :=
  match text.toList.splitOn '=' with
  | name :: value =>
    { d with fields := d.fields ++ [String.ofList name], isBound := d.isBound || !value.isEmpty }
  | [] => d

/-- Where the parts between commas start and end, for a text from one place up to another. -/
def spans (start stop : Nat) (s : List Placed) : List (Nat × Nat) :=
  let commas := (s.filter (·.2 = ',')).map Prod.fst
  (start :: commas.map (· + 1)).zip (commas ++ [stop])

/-- The fields in braces, none of them empty, and what follows them. -/
def readFields (whole : List UInt8) (d : Directive) (start : Nat) (s : List Placed) :
    Except DirectiveFault Directive :=
  match fromMark ['\x7d'] s with
  | (stop, _) :: (_, ']') :: rest =>
    let fields := spans start stop (s.takeWhile (·.2 ≠ '\x7d'))
    if fields.any fun f => f.1 = f.2 then .error .malformed
    else
      readAfterSpan whole
        (fields.foldl (fun d f => d.withField (piece whole f.1 (some f.2))) d) rest
  | _ => .error .malformed

/-- The span in brackets, perhaps with fields, and what follows it. -/
def readSpan (whole : List UInt8) (d : Directive) (start : Nat) (s : List Placed) :
    Except DirectiveFault Directive :=
  match fromMark [']', '\x7b'] s with
  | [] => .error .malformed
  | (stop, mark) :: rest =>
    if mark = ']' then readAfterSpan whole { d with isBound := true } rest
    else readFields whole { d with isBound := start ≠ stop } (stop + 1) rest

/-- A level alone, or a target at every level. -/
def ofWord (word : String) : Directive :=
  match Limit.ofText? word with
  | some limit => { limit }
  | none => { target := some word }

def readWord (whole : List UInt8) (s : List Placed) : Except DirectiveFault Directive :=
  match fromMark ['=', '[', ','] s with
  | [] => .ok (ofWord (piece whole 0 none))
  | (stop, mark) :: rest =>
    let d : Directive := { target := some (piece whole 0 (some stop)) }
    if mark = '=' then readLimit whole d (stop + 1) rest
    else if mark = '[' then readSpan whole d (stop + 1) rest
    else if rest.isEmpty then .ok (ofWord (piece whole 0 none))
    else .error .malformed

def startsWord (c : Char) : Bool :=
  c = '-' || c = ':' || c = '_' || Text.isAlphanumeric c

def parse (text : String) : Except DirectiveFault Directive :=
  let whole := Utf8.encode text
  match placed 0 (Text.trim text).toList with
  | [] => .error .malformed
  | (_, '[') :: rest => readSpan whole {} 1 rest
  | (place, c) :: rest =>
    if startsWord c then readWord whole ((place, c) :: rest) else .error .malformed

/-! ### what is concerned -/

def concerns (d : Directive) (r : LogRecord) : Bool :=
  !d.isBound
    && d.target.all (fun t => t.toList.isPrefixOf r.target.toList)
    && d.fields.all fun f => f = "message" || r.fields.any (·.1 = f)

/-- how specific the target of a directive is -/
def reach (d : Directive) : Nat := d.target.elim 0 fun t => t.length + 1

/-- Whether the second of two directives that concern the same record is the more specific one: it
has the longer target, or as long a one and more fields, or as many that are later in order. -/
def orUpTo (d e : Directive) : Bool :=
  if d.reach ≠ e.reach then d.reach < e.reach
  else if d.fields.length ≠ e.fields.length then d.fields.length < e.fields.length
  else !e.fields.lex d.fields

end Directive

end TelemetryGate
