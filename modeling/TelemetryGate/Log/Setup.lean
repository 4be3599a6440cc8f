import TelemetryGate.Log.Filter
import TelemetryGate.Log.Line
import TelemetryGate.Settings.Load

/-!
# Setting up logging

* `LogOutput`            where records go;
* `LogSettings.plan`     filter, format and output that settings and variables ask for;
* `LogOutput.channel`    where the records of an output go, its file opened;
* `Logger`               how records are written, and where;
* `LogSettings.start`    the logger of the settings, its file opened.
-/

namespace TelemetryGate

inductive LogOutput where
  | out
  | err
  | file
deriving DecidableEq

def LogOutput.ofName? (s : String) : Option LogOutput :=
  if s = "stdout" then some .out
  else if s = "stderr" then some .err
  else if s = "file" then some .file
  else none

inductive LogFault where
  | filter (f : FilterFault)
  | format (name : String)
  | output (name : String)
  /-- neither settings nor the home of the user tell where the file is -/
  | nowhere
  | directory (e : FileError)
  | file (path : Path) (e : FileError)
  /-- another logger is at work -/
  | taken
deriving DecidableEq

def LogFault.message : LogFault → String
  | filter f => f.message
  | format name => "Invalid log format: " ++ name ++ " (must be 'json' or 'text')"
  | output name => "Invalid log output: " ++ name ++ " (must be 'stdout', 'stderr', or 'file')"
  | nowhere => "No log file path could be determined"
  | directory e => "Failed to create log directory: " ++ e.message
  | file path e => "Failed to open log file " ++ Text.quoted path ++ ": " ++ e.message
  | taken =>
    "Failed to initialize logging: a global default trace dispatcher has already been set"

def LogFault.error (f : LogFault) : HostError := .settings f.message

/-! ### what is asked for -/

structure LogPlan where
  filter : LogFilter
  format : LogFormat
  output : LogOutput

namespace LogSettings

def formatVariable : String := "CALLS_TELEMETRY_LOG_FORMAT"

def outputVariable : String := "CALLS_TELEMETRY_LOG_OUTPUT"

/-- The format: the one that the variable names if it names one, else the one of the settings. -/
def chosenFormat (settings : LogSettings) (env : Environment) : Except LogFault LogFormat :=
  match (env.get? formatVariable).bind LogFormat.ofName? with
  | some format => .ok format
  | none =>
    match LogFormat.ofName? settings.format with
    | some format => .ok format
    | none => .error (.format settings.format)

/-- The output: the one that the variable names if it is there at all, else the one of the
settings. -/
def chosenOutput (settings : LogSettings) (env : Environment) : Except LogFault LogOutput :=
  let name := (env.get? outputVariable).getD settings.output
  match LogOutput.ofName? name with
  | some output => .ok output
  | none => .error (.output name)

/-- What settings and variables ask for, and what is said on the way. -/
def plan (t : Members.Traversal String) (settings : LogSettings) (env : Environment) :
    Except LogFault LogPlan × List String :=
  let (filter, notes) := LogFilter.ofSettings t settings env
  (match filter with
    | .error f => .error (.filter f)
    | .ok filter =>
      match chosenFormat settings env with
      | .error f => .error f
      | .ok format => (chosenOutput settings env).map fun output => ⟨filter, format, output⟩, notes)

def chosenFile? (settings : LogSettings) (s : Surroundings) : Option Path :=
  settings.file.or (Settings.logPath? s)

end LogSettings

/-! ### loggers -/

inductive Channel where
  | out
  | err
  | file (path : Path)
deriving DecidableEq

/-- The files with a log file among them, in a directory that is made if need be; and what went
wrong, if anything did. Directories stay even if the file cannot be opened. -/
def FileTree.openLog (path : Path) (t : FileTree) : Option LogFault × FileTree :=
  let made := (Path.parent? path).elim { files := t } t.makeDirs
  match made.fault with
  | some e => (some (.directory e), made.files)
  | none =>
    match made.files.append [] path with
    | .error e => (some (.file path e), made.files)
    | .ok files => (none, files)

/-- Where the records of an output go, and the files once its file is opened. -/
def LogOutput.channel (path : Option Path) (files : FileTree) :
    LogOutput → Except LogFault Channel × FileTree
  | out => (.ok .out, files)
  | err => (.ok .err, files)
  | file =>
    match path with
    | none => (.error .nowhere, files)
    | some path =>
      let (fault, files) := files.openLog path
      (fault.elim (.ok (.file path)) .error, files)

structure Logger where
  filter : LogFilter
  format : LogFormat
  color : Bool
  channel : Channel

def Logger.line? (l : Logger) (time : String) (r : LogRecord) : Option String :=
  if l.filter.admits r then
    some (match l.format with
      | .text => r.text l.color time
      | .json => r.json time)
  else none

/-- What setting up comes to: a logger unless nothing is to be logged, what is said on the way, and
the files after it. -/
structure LogStart where
  logger : Except LogFault (Option Logger)
  notes : List String := []
  files : FileTree

namespace LogSettings

/-- The logger of the settings, its file opened. Nothing is looked at where logging is off; with
another logger at work it fails after all else is done. -/
def start (settings : LogSettings) (busy : Bool) (s : Surroundings) : LogStart :=
  if !settings.enabled then { logger := .ok none, files := s.files }
  else
    let (plan, notes) := settings.plan s.traversal s.environment
    match plan with
    | .error f => { logger := .error f, notes, files := s.files }
    | .ok plan =>
      let (channel, files) := plan.output.channel (settings.chosenFile? s) s.files
      match channel with
      | .error f => { logger := .error f, notes, files }
      | .ok channel =>
        { logger := if busy then .error .taken
            else .ok (some ⟨plan.filter, plan.format,
              settings.color && plan.output ≠ .file, channel⟩)
          notes, files }

end LogSettings

end TelemetryGate
