import TelemetryGate.Command.Arguments
import TelemetryGate.Command.Presentation
import TelemetryGate.Command.Replay
import TelemetryGate.Settings.Shown
import TelemetryGate.Watch

/-!
# Carrying out a command

* `Job`             the settings a command works with, and where they came from;
* `Shown`           what a command comes to;
* `Job.execute`     carries a command out.
-/

namespace TelemetryGate

/-- What a command works with: settings, and the file that was named for them. -/
structure Job where
  settings : Settings
  config : Option Path := none

/-- What a command comes to. -/
inductive Shown where
  | text (s : String)
  /-- it goes on watching -/
  | watching (w : Watch)

namespace Job

def watchOver : String := "Watch stopped"

def load (s : Surroundings) (config : Option Path) : Except HostError Job :=
  match Settings.load s config with
  | .error f => .error f.error
  | .ok settings => .ok ⟨settings, config⟩

/-- The gate before a command is carried out: reporting is off. -/
def gate (j : Job) : Gate := { cap := j.settings.bodyCap }

/-- Applies the settings, unless something is wrong with them. -/
def applySettings (j : Job) (o : Outcomes) (g : Gate) : Done Gate (Except HostError Unit) :=
  match Command.problems? j.settings with
  | some problems =>
    { answer := .error (.settings (Command.validationText (some problems))), state := g }
  | none => (g.applySettings j.settings o).map fun
    | .ok () => .ok ()
    | .error e => .error (.lifecycle e)

/-- Opens an input: a file, or what comes from outside if none is named. A directory can be opened
but not read. -/
def openInput (s : Surroundings) (outside : List UInt8) :
    Option Path → Except FileError Command.Feed
  | none => .ok ⟨outside, none⟩
  | some path =>
    match s.files.look path with
    | .error e => .error e
    | .ok .directory => .ok ⟨[], some FileError.isDirectory.message⟩
    | .ok (.file bytes) => .ok ⟨bytes, none⟩

/-- Submits the lines of an input while reporting is as the settings say, then switches it off;
`each` says how things turn out for every submission. -/
def track (j : Job) (s : Surroundings) (outside : List UInt8) (user : String)
    (input : Option Path) (o : Outcomes) (each : Nat → Outcomes) (g : Gate) :
    Done Gate (Except HostError String) :=
  (j.applySettings o g).andThen fun
    | .error e, g => { answer := .error e, state := g }
    | .ok (), g =>
      match openInput s outside input with
      | .error e => { answer := .error (.io e.message), state := g }
      | .ok feed =>
        (Command.replay feed user each g).andThen fun result g =>
          (g.onManager (Manager.disable o)).map fun
            | .ok () => result
            | .error e => .error (.lifecycle e)

def status (j : Job) (format : String) (o : Outcomes) (g : Gate) :
    Done Gate (Except HostError String) :=
  (j.applySettings o g).andThen fun
    | .error e, g => { answer := .error e, state := g }
    | .ok (), g =>
      let status := g.manager.status
      { answer := .ok (if format = "json" then Json.indented status.members
          else Command.statusText status)
        state := g }

/-- Starts to watch the file that was named for the settings. -/
def watch (j : Job) (s : Surroundings) (debounceMs : Nat) (o : Outcomes) (g : Gate) :
    Done Gate (Except HostError Shown) :=
  match j.config with
  | none =>
    { answer := .error (.settings "watch requires --config <path>"), state := g }
  | some path =>
    let w : Watch := ⟨path, debounceMs⟩
    (w.start s o g).map fun
      | .ok () => .ok (.watching w)
      | .error e => .error e

/-- Carries a command out; unless `each` says otherwise, things turn out alike for every
submission. -/
def execute (j : Job) (s : Surroundings) (outside : List UInt8) (o : Outcomes) (c : Command)
    (g : Gate) (each : Nat → Outcomes := fun _ => o) : Done Gate (Except HostError Shown) :=
  let shown (d : Done Gate (Except HostError String)) : Done Gate (Except HostError Shown) :=
    d.map fun r => r.map .text
  match c with
  | .status format => shown (j.status format o g)
  | .events => { answer := .ok (.text Command.registryText), state := g }
  | .showSettings => { answer := (j.settings.shown s.traversal).map .text, state := g }
  | .checkSettings =>
    { answer := .ok (.text (Command.validationText (Command.problems? j.settings))), state := g }
  | .track user input => shown (j.track s outside user input o each g)
  | .watch debounceMs => j.watch s debounceMs o g

end Job

end TelemetryGate
