import TelemetryGate.Log
import TelemetryGate.Settings
import TelemetryGate.Setting.Conversion
import TelemetryGate.Setting.Source

/-!
# Loading settings

Settings come in layers: what they are unless said otherwise, the file of the user, a file that is
named, and variables.

* `Surroundings`             the files and variables around the program;
* `Settings.globalPath?`     where the file of the user is;
* `Settings.load`            settings from all layers;
* `Settings.loadFile`        settings from one file;
* `Settings.loadValid`       settings from all layers, if nothing is wrong with them.
-/

namespace TelemetryGate

/-- The files and variables around the program, and what it finds there that nothing here tells. -/
structure Surroundings where
  files : FileTree
  environment : Environment := []
  /-- the home of the user in the list of accounts, if there is such a user -/
  account : Option Path := none
  formats : FileFormats := .own
  /-- in which order modules come -/
  traversal : Members.Traversal String := .byName

namespace Surroundings

/-- The home of the user: the one that its variable names, else that of the account. -/
def home? (s : Surroundings) : Option Path :=
  ((s.environment.get? "HOME").filter (· ≠ "")).or (s.account.filter (· ≠ ""))

/-- The directory that a variable names, which must name it from the root; else one under the home
of the user. Who has no home has no such directory, whatever the variable says. -/
def directory? (s : Surroundings) (named : String) (underHome : Path) : Option Path :=
  s.home?.map fun home =>
    ((s.environment.get? named).filter Path.isAbsolute).getD (Path.join home underHome)

end Surroundings

namespace Settings

/-! ### where files are -/

def globalPath? (s : Surroundings) : Option Path :=
  (s.directory? "XDG_CONFIG_HOME" ".config").map fun dir =>
    Path.join (Path.join dir programName) "config.toml"

def logPath? (s : Surroundings) : Option Path :=
  (s.directory? "XDG_STATE_HOME" ".local/state").map fun dir =>
    Path.join (Path.join dir programName) (programName ++ ".log")

/-! ### layers -/

/-- What settings are unless said otherwise, where a layer can tell. -/
def defaultLayer : Layer :=
  [("request_body_max_size_bytes", .ofScalar (.whole defaultBodyCap)),
    ("telemetry.plugin_version", .ofScalar (.text version)),
    ("telemetry.queue_capacity", .ofScalar (.whole 1024)),
    ("telemetry.request_timeout_ms", .ofScalar (.whole 5000))]

inductive LoadFault where
  | source (f : SourceFault)
  | setting (f : SettingFault)
  | invalid (problems : List Problem)

def sourceMessage : SourceFault → String
  | .absent name => "configuration file \"" ++ name ++ "\" not found"
  | .unknownFormat path =>
    "configuration file \"" ++ path ++ "\" is not of a registered file format"
  | .unreadable e => e.message
  | .notText => "stream did not contain valid UTF-8"
  | .badToml => "TOML parse error"
  | .malformed reason origin => reason ++ " in " ++ origin
  | .noTable found origin =>
    (SettingFault.unfit [] found "a map" (some origin)).message ++ " in " ++ origin

def LoadFault.message : LoadFault → String
  | source f => sourceMessage f
  | setting f => f.message
  | invalid problems =>
    "Configuration validation failed:\n"
      ++ String.intercalate "\n" (problems.map Problem.message)

def LoadFault.error (f : LoadFault) : HostError := .settings f.message

def ofPart : (p : Part) → Setting → Except SettingFault p.El
  | .single k => Setting.toKind k
  | .sink => Setting.toRecord Setting.toKind SinkSettings.form
  | .host => Setting.toRecord Setting.toKind HostSettings.form
  | .logging => Setting.toRecord Setting.toKind LogSettings.form

/-- The settings that layers make, one over another. -/
def ofLayers (layers : List Layer) : Except LoadFault Settings :=
  (Setting.toRecord ofPart form ((defaultLayer :: layers).foldl Setting.overlay (.table [] none)))
    |>.mapError .setting

def globalFile? (s : Surroundings) : Option Path := (globalPath? s).filter s.files.reaches

/-- The layer of the user's file, which may be absent and need not be readable. -/
def globalLayer (s : Surroundings) : Except LoadFault Layer :=
  match globalFile? s with
  | none => .ok []
  | some path =>
    match Layer.ofFile s.formats s.files path with
    | .ok layer => .ok layer
    | .error f => if f.isContent then .error (.source f) else .ok []

def fileLayer (s : Surroundings) (path : Path) : Except LoadFault Layer :=
  (Layer.ofFile s.formats s.files path).mapError .source

def load (s : Surroundings) (path : Option Path) : Except LoadFault Settings :=
  match globalLayer s with
  | .error f => .error f
  | .ok user =>
    match path.elim (.ok []) (fileLayer s) with
    | .error f => .error f
    | .ok named => ofLayers [user, named, Layer.ofEnvironment s.environment]

def loadFile (s : Surroundings) (path : Path) : Except LoadFault Settings :=
  match fileLayer s path with
  | .error f => .error f
  | .ok layer => ofLayers [layer]

/-- Settings from all layers, if nothing is wrong with them. -/
def loadValid (s : Surroundings) (path : Option Path) : Except LoadFault Settings :=
  match load s path with
  | .error f => .error f
  | .ok settings =>
    if settings.problems.isEmpty then .ok settings else .error (.invalid settings.problems)

/-- What loading logs: that the user has no file where one is looked for. -/
def loadLog (s : Surroundings) : List LogRecord :=
  ((globalPath? s).filter fun path => !s.files.reaches path).toList.map fun path =>
    { level := .debug, target := "calls_telemetry::config::sources::global_file"
      message := "No global configuration file"
      fields := [("config_path", .plain path)] }

end Settings

end TelemetryGate
