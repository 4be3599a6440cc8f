import TelemetryGate.Command.Options
import TelemetryGate.Settings

/-!
# The command line

* `Command`            what is to be done;
* `Arguments`          that, and the options that stand before it;
* `Arguments.parse`    the arguments of the program;
* `Arguments.usage`    how to call it.
-/

namespace TelemetryGate

inductive Command where
  | status (format : String)
  | events
  | showSettings
  | checkSettings
  | track (user : String) (input : Option Path)
  | watch (debounceMs : Nat)
deriving DecidableEq

/-- The options that stand before the command. -/
structure CommonOptions where
  config : Option Path := none
  verbose : Bool := false
  quiet : Bool := false
  logLevel : Option String := none
  logFormat : Option String := none
  logOutput : Option String := none
  logFile : Option Path := none
deriving DecidableEq

structure Arguments where
  command : Command
  options : CommonOptions
deriving DecidableEq

/-- how many milliseconds a watched file must be left alone -/
def defaultDebounceMs : Nat := 250

namespace Arguments

def commonForm : Form OptionKind OptionKind.El CommonOptions where
  name := "options"
  blank := {}
  slots :=
    [{ name := "config", kind := .path, store := fun v r => { r with config := some v } },
     { name := "verbose", kind := .flag, store := fun v r => { r with verbose := v } },
     { name := "quiet", kind := .flag, store := fun v r => { r with quiet := v } },
     { name := "log-level", kind := .text, store := fun v r => { r with logLevel := some v } },
     { name := "log-format", kind := .text, store := fun v r => { r with logFormat := some v } },
     { name := "log-output", kind := .text, store := fun v r => { r with logOutput := some v } },
     { name := "log-file", kind := .path, store := fun v r => { r with logFile := some v } }]

structure TrackOptions where
  user : String := ""
  input : Option Path := none

def trackForm : Form OptionKind OptionKind.El TrackOptions where
  name := "track"
  blank := {}
  slots :=
    [{ name := "user-id", required := true, kind := .text
       store := fun v r => { r with user := v } },
     { name := "input", kind := .path, store := fun v r => { r with input := some v } }]

def statusForm : Form OptionKind OptionKind.El String where
  name := "status"
  blank := "text"
  slots := [{ name := "format", kind := .text, store := fun v _ => v }]

def watchForm : Form OptionKind OptionKind.El Nat where
  name := "watch"
  blank := defaultDebounceMs
  slots := [{ name := "debounce-ms", kind := .word, store := fun v _ => v }]

def plainForm (name : String) : Form OptionKind OptionKind.El Unit where
  name := name
  blank := ()
  slots := []

def settingsTree : CommandTree := .node [("show", .leaf), ("validate", .leaf)]

def tree : CommandTree :=
  .node [("status", .leaf), ("events", .leaf), ("config", settingsTree), ("track", .leaf),
    ("watch", .leaf)]

/-- The options of a command that has none below it. -/
def parseLeaf {ρ : Type} (form : Form OptionKind OptionKind.El ρ) (words : List String) :
    Except OptionFault ρ :=
  match readOptions form .leaf ⟨form.blank, [], none⟩ words with
  | .error f => .error f
  | .ok (o, _) => (o.finish form).map Options.record

/-- The options of a command that has others below it, and the command below. -/
def parseNode {ρ : Type} (form : Form OptionKind OptionKind.El ρ) (tree : CommandTree)
    (below : String → List String → Except OptionFault Command) (words : List String) :
    Except OptionFault (ρ × Command) :=
  match readOptions form tree ⟨form.blank, [], none⟩ words with
  | .error f => .error f
  | .ok (o, some (name, rest)) =>
    (below name rest).bind fun command => (o.finish form).map fun o => (o.record, command)
  | .ok (o, none) =>
    o.settle.bind fun o => .error (if o.given.isEmpty then .nothing else .noCommand)

def parseSettings (name : String) (words : List String) : Except OptionFault Command :=
  (parseLeaf (plainForm name) words).map fun () =>
    if name = "show" then .showSettings else .checkSettings

def parseCommand (name : String) (words : List String) : Except OptionFault Command :=
  if name = "status" then (parseLeaf statusForm words).map .status
  else if name = "config" then
    (parseNode (plainForm name) settingsTree parseSettings words).map Prod.snd
  else if name = "track" then (parseLeaf trackForm words).map fun o => .track o.user o.input
  else if name = "watch" then (parseLeaf watchForm words).map .watch
  else (parseLeaf (plainForm name) words).map fun () => .events

def parse (words : List String) : Except OptionFault Arguments :=
  (parseNode commonForm tree parseCommand words).map fun (options, command) => ⟨command, options⟩

def usage : String :=
  String.intercalate "\n"
    ["Usage: " ++ programName ++ " [options] <command>", "", "Commands:",
      "  status [--format text|json]", "  events", "  config show", "  config validate",
      "  track --user-id <id> [--input <file>]", "  watch [--debounce-ms <n>]", "", "Options:",
      "  --config <file>", "  --verbose", "  --quiet", "  --log-level <level>",
      "  --log-format text|json", "  --log-output stdout|stderr|file", "  --log-file <file>"]

end Arguments

end TelemetryGate
