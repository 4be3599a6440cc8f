import TelemetryGate.Form
import TelemetryGate.Path
import TelemetryGate.Word
import TelemetryGate.Decimal.Reading

/-!
# Options on a command line

A command has options, each named by two hyphens and its name, and perhaps further commands below
it.  The options that a command takes are the slots of a form.

* `OptionKind`     what an option is followed by;
* `OptionFault`    what is wrong with a command line;
* `CommandTree`    which commands stand below which;
* `readOptions`    the options of one command, up to the command below it or to the end;
* `Options.finish` the record that they fill.
-/

namespace TelemetryGate

/-- What an option is followed by. -/
inductive OptionKind where
  /-- nothing -/
  | flag
  | text
  /-- a path, which is not empty -/
  | path
  /-- a number of 64 bits -/
  | word
deriving DecidableEq

@[reducible] def OptionKind.El : OptionKind → Type
  | flag => Bool
  | text => String
  | path => Path
  | word => Nat

/-- What is wrong with a command line, or that it asks for help. -/
inductive OptionFault where
  | help
  /-- there is nothing on it -/
  | nothing
  | noCommand
  | unknownCommand
  | unknownOption
  | noValue
  | badValue
  /-- a value for an option that is followed by none -/
  | surplusValue
  | repeated
  /-- an option that must be there is not -/
  | missing
deriving DecidableEq

def OptionFault.exitCode : OptionFault → Nat
  | help => 0
  | _ => 2

def OptionFault.message : OptionFault → String
  | help => "help is asked for"
  | nothing => "there is no command"
  | noCommand => "an option stands without a command"
  | unknownCommand => "a command is not known"
  | unknownOption => "an option is not known"
  | noValue => "an option has no value"
  | badValue => "the value of an option does not fit"
  | surplusValue => "an option has a value that takes none"
  | repeated => "an option is given twice"
  | missing => "an option is missing"

/-- The commands below a command, by name. -/
inductive CommandTree where
  | node (commands : List (String × CommandTree))

namespace CommandTree

def leaf : CommandTree := node []

def commands : CommandTree → List (String × CommandTree)
  | node cs => cs

def helpName : String := "help"

/-- Whether names lead to a command; where there are commands there is one that explains them. -/
def leads (t : CommandTree) : List String → Bool
  | [] => true
  | name :: names =>
    match t.commands.lookup name with
    | some c => c.leads names
    | none => name = helpName && !t.commands.isEmpty && names.isEmpty

def has (t : CommandTree) (name : String) : Bool := t.leads [name]

end CommandTree

/-! ### reading -/

abbrev OptionSlot (ρ : Type) : Type := Slot OptionKind OptionKind.El ρ

def OptionKind.read : (k : OptionKind) → String → Except OptionFault k.El
  | flag, _ => .ok true
  | text, s => .ok s
  | path, s => if s = "" then .error .noValue else .ok s
  | word, s =>
    let digits := match s.toList with
      | '+' :: rest => rest
      | cs => cs
    match (Decimal.readDigits? digits).filter (· ≤ Word.most) with
    | some n => .ok n
    | none => .error .badValue

/-- The options read so far: the record they fill, the names of those that are there, and the last
one while it is not stored, with its value if that has come. -/
structure Options (ρ : Type) where
  record : ρ
  given : List String := []
  pending : Option (OptionSlot ρ × Option String) := none

namespace Options

variable {ρ : Type}

/-- Stores the value of an option, which must not be there already. -/
def store (slot : OptionSlot ρ) (value : String) (o : Options ρ) :
    Except OptionFault (Options ρ) :=
  if o.given.contains slot.name then .error .repeated
  else
    (slot.kind.read value).map fun v =>
      { o with record := slot.store v o.record, given := slot.name :: o.given }

def settle (o : Options ρ) : Except OptionFault (Options ρ) :=
  match o.pending with
  | none => .ok o
  | some (_, none) => .error .noValue
  | some (slot, some value) => { o with pending := none }.store slot value

def awaits (o : Options ρ) : Bool :=
  match o.pending with
  | some (_, none) => true
  | _ => false

/-- The record that the options fill, if all that must be there are. -/
def finish (form : Form OptionKind OptionKind.El ρ) (o : Options ρ) :
    Except OptionFault (Options ρ) :=
  match o.settle with
  | .error f => .error f
  | .ok o => if (form.missing? o.given).isSome then .error .missing else .ok o

/-- The fault of a word that is neither an option nor its value. -/
def stray (tree : CommandTree) (afterMark : Bool) (word : String) : OptionFault :=
  if tree.commands.isEmpty || (afterMark && tree.has word) then .unknownOption else .unknownCommand

/-- An option that is written out: its name, and its value if an equals sign gives one. -/
def readLong (form : Form OptionKind OptionKind.El ρ) (body : List Char) (o : Options ρ) :
    Except OptionFault (Options ρ) :=
  let name := String.ofList (body.takeWhile (· ≠ '='))
  let value? := match body.dropWhile (· ≠ '=') with
    | _ :: value => some (String.ofList value)
    | [] => none
  if name = CommandTree.helpName then
    if value?.isSome then .error .surplusValue
    else o.settle.bind fun _ => .error .help
  else
    match form.slot? name with
    | none => .error .unknownOption
    | some slot =>
      match slot.kind, value? with
      | .flag, some _ => .error .surplusValue
      | .flag, none => o.settle.bind fun o => o.store slot ""
      | _, some value => o.settle.bind fun o => o.store slot value
      | _, none => o.settle.map fun o => { o with pending := some (slot, none) }

/-- An option of single letters, of which only the first one of help is known. -/
def readShort (letters : List Char) (o : Options ρ) : Except OptionFault (Options ρ) :=
  if letters.head? = some 'h' then o.settle.bind fun _ => .error .help
  else .error .unknownOption

/-- Takes a word that starts with hyphens, or the value of the last option. -/
def takeWord (form : Form OptionKind OptionKind.El ρ) (tree : CommandTree) (word : String)
    (o : Options ρ) : Except OptionFault (Options ρ) :=
  match word.toList with
  | '-' :: '-' :: body => o.readLong form body
  | '-' :: c :: letters => o.readShort (c :: letters)
  | _ =>
    match o.pending with
    | some (slot, none) => .ok { o with pending := some (slot, some word) }
    | _ => .error (stray tree false word)

end Options

/-- The options of one command, and the command below it with the words that follow it. -/
def readOptions {ρ : Type} (form : Form OptionKind OptionKind.El ρ) (tree : CommandTree)
    (o : Options ρ) : List String → Except OptionFault (Options ρ × Option (String × List String))
  | [] => .ok (o, none)
  | word :: rest =>
    if !o.awaits && tree.has word then
      if word = CommandTree.helpName then
        .error (if tree.leads rest then .help else .unknownCommand)
      else .ok (o, some (word, rest))
    else if word = "--" then
      match rest with
      | [] => .ok (o, none)
      | next :: _ => .error (Options.stray tree true next)
    else
      match o.takeWord form tree word with
      | .error f => .error f
      | .ok o => readOptions form tree o rest

end TelemetryGate
