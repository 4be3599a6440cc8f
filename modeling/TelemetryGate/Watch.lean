import TelemetryGate.Host
import TelemetryGate.Settings.Load

/-!
# Watching the settings

The file of the settings is applied again whenever it changes.

* `Watch.reload`       loads the settings and applies them;
* `Watch.refresh`      the same; a failure is logged and leaves things as they are;
* `Watch.start`        applies the settings once and looks for the directory of the file;
* `Watch.isAbout`      whether a change in that directory concerns the file.
-/

namespace TelemetryGate

structure Watch where
  path : Path
  debounceMs : Nat
deriving DecidableEq

namespace Watch

def target : String := "calls_telemetry::watch"

/-- Loads the settings and applies them, unless something is wrong with them. -/
def reload (w : Watch) (s : Surroundings) (o : Outcomes) (g : Gate) :
    Done Gate (Except HostError Unit) :=
  match Settings.loadValid s (some w.path) with
  | .error f => { answer := .error f.error, state := g, log := Settings.loadLog s }
  | .ok settings =>
    ((g.applySettings settings o).after (Settings.loadLog s)).andThen fun
      | .error e, g => { answer := .error (.lifecycle e), state := g }
      | .ok (), g =>
        { answer := .ok (), state := g
          log := [{ level := .info, target, message := "Configuration applied"
                    fields := [("diagnostics_enabled", .flag settings.reports)] }] }

/-- Loads the settings and applies them; a failure is logged and goes no further. -/
def refresh (w : Watch) (s : Surroundings) (o : Outcomes) (g : Gate) : Done Gate Unit :=
  (w.reload s o g).andThen fun
    | .ok (), g => { answer := (), state := g }
    | .error e, g =>
      { answer := (), state := g
        log := [{ level := .error, target
                  message := "Failed to apply configuration; keeping previous state"
                  fields := [("error", .plain e.message)] }] }

/-- The directory in which changes are looked for. -/
def directory (w : Watch) : Path :=
  match Path.parent? w.path with
  | some dir => if dir = "" then "." else dir
  | none => "."

/-- The error of a directory that cannot be watched. -/
def absent (s : Surroundings) (dir : Path) (e : FileError) : HostError :=
  .watch (e.message ++ " about [" ++ Text.quoted (Path.join s.files.homePath dir) ++ "]")

/-- Applies the settings once, then looks for the directory of the file. -/
def start (w : Watch) (s : Surroundings) (o : Outcomes) (g : Gate) :
    Done Gate (Except HostError Unit) :=
  (w.refresh s o g).andThen fun () g =>
    match s.files.look w.directory with
    | .error e => { answer := .error (absent s w.directory e), state := g }
    | .ok _ =>
      { answer := .ok (), state := g
        log := [{ level := .info, target, message := "Watching configuration"
                  fields := [("config", .plain (Text.quoted w.path))] }] }

/-- Whether a change of a file in a directory concerns the file that is watched: it has the same
name and stands in the same place. -/
def isAbout (w : Watch) (s : Surroundings) (changed : Path) : Bool :=
  match Path.fileName? w.path, s.files.locate w.directory, s.files.locate changed with
  | some name, .ok dir, .ok place => place = dir ++ [name]
  | _, _, _ => false

end Watch

end TelemetryGate
