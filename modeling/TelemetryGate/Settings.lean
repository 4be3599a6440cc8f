import TelemetryGate.Client

/-!
# Settings of a host

* `SinkSettings`, `HostSettings`, `LogSettings`   the sections;
* `Settings`              all of them;
* `Settings.problems`     what is wrong with them;
* `Settings.redacted`     the same with the key masked;
* `Settings.provider`     what a client is built from.
-/

namespace TelemetryGate

def version : String := "1.1.0"

def programName : String := "calls-telemetry"

def defaultBodyCap : Nat := 1048576

/-! ### sections -/

structure SinkSettings where
  writeKey : String := ""
  dataplaneUrl : String := ""
  buildHash : String := ""
  pluginVersion : String := version
  queueCapacity : Nat := 1024
  requestTimeoutMs : Nat := 5000
deriving DecidableEq

structure HostSettings where
  diagnosticId : String := ""
  serverVersion : String := ""
deriving DecidableEq

structure LogSettings where
  enabled : Bool := true
  level : String := "info"
  format : String := "text"
  output : String := "stderr"
  file : Option String := none
  color : Bool := true
  modules : Members String := []
deriving DecidableEq

def SinkSettings.form : Form Kind Kind.El SinkSettings where
  name := "TelemetrySettings"
  blank := {}
  slots :=
    [{ name := "write_key", kind := .text, store := fun v r => { r with writeKey := v } },
     { name := "dataplane_url", kind := .text, store := fun v r => { r with dataplaneUrl := v } },
     { name := "build_hash", kind := .text, store := fun v r => { r with buildHash := v } },
     { name := "plugin_version", kind := .text
       store := fun v r => { r with pluginVersion := v } },
     { name := "queue_capacity", kind := .size
       store := fun v r => { r with queueCapacity := v } },
     { name := "request_timeout_ms", kind := .word
       store := fun v r => { r with requestTimeoutMs := v } }]

def HostSettings.form : Form Kind Kind.El HostSettings where
  name := "HostSettings"
  blank := {}
  slots :=
    [{ name := "diagnostic_id", kind := .text
       store := fun v r => { r with diagnosticId := v } },
     { name := "server_version", kind := .text
       store := fun v r => { r with serverVersion := v } }]

def LogSettings.form : Form Kind Kind.El LogSettings where
  name := "LoggingConfig"
  blank := {}
  slots :=
    [{ name := "enabled", kind := .flag, store := fun v r => { r with enabled := v } },
     { name := "level", kind := .text, store := fun v r => { r with level := v } },
     { name := "format", kind := .text, store := fun v r => { r with format := v } },
     { name := "output", kind := .text, store := fun v r => { r with output := v } },
     { name := "file", kind := .optional .path, store := fun v r => { r with file := v } },
     { name := "color", kind := .flag, store := fun v r => { r with color := v } },
     { name := "modules", kind := .texts, store := fun v r => { r with modules := v } }]

/-! ### all of them -/

structure Settings where
  /-- whether events are reported; absent means no -/
  diagnostics : Option Bool := none
  /-- how many bytes a submission may have -/
  bodyCap : Nat := defaultBodyCap
  sink : SinkSettings := {}
  host : HostSettings := {}
  logging : LogSettings := {}
deriving DecidableEq

/-- What a slot of the settings holds: a single value or a section. -/
inductive Part where
  | single (k : Kind)
  | sink
  | host
  | logging
deriving DecidableEq

@[reducible] def Part.El : Part → Type
  | single k => k.El
  | sink => SinkSettings
  | host => HostSettings
  | logging => LogSettings

namespace Settings

def form : Form Part Part.El Settings where
  name := "CallsConfig"
  blank := {}
  slots :=
    [{ name := "enable_diagnostics", kind := .single (.optional .flag)
       store := fun v r => { r with diagnostics := v } },
     { name := "request_body_max_size_bytes", kind := .single .word
       store := fun v r => { r with bodyCap := v } },
     { name := "telemetry", kind := .sink, store := fun v r => { r with sink := v } },
     { name := "host", kind := .host, store := fun v r => { r with host := v } },
     { name := "logging", kind := .logging, store := fun v r => { r with logging := v } }]

def readPart (depth : Nat) : (p : Part) → Json.Reader p.El
  | .single k => Json.readKind depth k
  | .sink => Json.readRecord Json.readKind SinkSettings.form depth
  | .host => Json.readRecord Json.readKind HostSettings.form depth
  | .logging => Json.readRecord Json.readKind LogSettings.form depth

def decode (bytes : List UInt8) : Except Json.Fault Settings :=
  Json.readWhole (Json.readRecord readPart form Json.maxDepth) bytes

def toPart : (p : Part) → Json → Except Mismatch p.El
  | .single k => Json.toKind k
  | .sink => Json.toRecord Json.toKind SinkSettings.form
  | .host => Json.toRecord Json.toKind HostSettings.form
  | .logging => Json.toRecord Json.toKind LogSettings.form

def ofJson : Json → Except Mismatch Settings := Json.toRecord toPart form

def reports (s : Settings) : Bool := s.diagnostics.getD false

/-! ### what is wrong with them -/

/-- Which part of the settings a problem is in. -/
inductive Area where
  | sink
  | host
  | server
deriving DecidableEq

def Area.name : Area → String
  | sink => "Telemetry"
  | host => "Host"
  | server => "Server"

structure Problem where
  area : Area
  reason : String
deriving DecidableEq

def Problem.message (p : Problem) : String := p.area.name ++ ": " ++ p.reason

def zeroProblem (area : Area) (name : String) : Problem :=
  ⟨area, name ++ " must be greater than zero"⟩

/-- The problem of a value that reporting needs. -/
def blankProblem (area : Area) (name : String) : Problem :=
  ⟨area, name ++ " is required when diagnostics are enabled"⟩

def problemIf (cause : Bool) (p : Problem) : List Problem := if cause then [p] else []

/-- What is wrong: values that are zero and, if events are to be reported, values that are blank. -/
def problems (s : Settings) : List Problem :=
  problemIf (s.bodyCap = 0) (zeroProblem .server "request_body_max_size_bytes")
    ++ problemIf (s.sink.queueCapacity = 0) (zeroProblem .sink "queue_capacity")
    ++ problemIf (s.reports && Text.isBlankText s.sink.writeKey) (blankProblem .sink "write_key")
    ++ problemIf (s.reports && Text.isBlankText s.sink.dataplaneUrl)
        (blankProblem .sink "dataplane_url")
    ++ problemIf (s.reports && Text.isBlankText s.host.diagnosticId)
        (blankProblem .host "diagnostic_id")

/-! ### what is made of them -/

def mask : String := "********"

/-- The same settings with the key masked. -/
def redacted (s : Settings) : Settings :=
  if s.sink.writeKey = "" then s else { s with sink := { s.sink with writeKey := mask } }

def provider (s : Settings) : Provider :=
  { writeKey := s.sink.writeKey
    dataplaneUrl := s.sink.dataplaneUrl
    diagnosticId := s.host.diagnosticId
    serverVersion := s.host.serverVersion
    pluginVersion := s.sink.pluginVersion
    buildHash := s.sink.buildHash }

def clientConfig (s : Settings) : ClientConfig := s.provider.clientConfig

end Settings

end TelemetryGate
