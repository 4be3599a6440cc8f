import TelemetryGate.Settings
import TelemetryGate.Toml.Printer

/-!
# Settings as they are shown

* `Settings.toToml?`   the settings as a table, unless a number is too great for one;
* `Settings.shown`     their text, with the key masked.
-/

namespace TelemetryGate

/-- a number as a value of a table, which must fit a signed word -/
def Toml.ofNat? (n : Nat) : Option Toml := if Word.isSigned n then some (.whole n) else none

def SinkSettings.toToml? (s : SinkSettings) : Option Toml :=
  (Toml.ofNat? s.queueCapacity).bind fun capacity =>
    (Toml.ofNat? s.requestTimeoutMs).map fun timeout =>
      .table
        [("write_key", .text s.writeKey), ("dataplane_url", .text s.dataplaneUrl),
          ("build_hash", .text s.buildHash), ("plugin_version", .text s.pluginVersion),
          ("queue_capacity", capacity), ("request_timeout_ms", timeout)]

def HostSettings.toToml (s : HostSettings) : Toml :=
  .table [("diagnostic_id", .text s.diagnosticId), ("server_version", .text s.serverVersion)]

/-- The section about the log, the modules in the order of a traversal. -/
def LogSettings.toToml (t : Members.Traversal String) (s : LogSettings) : Toml :=
  .table (
    [("enabled", .flag s.enabled), ("level", .text s.level), ("format", .text s.format),
      ("output", .text s.output)]
      ++ (s.file.map fun f => ("file", Toml.text f)).toList
      ++ [("color", .flag s.color),
        ("modules", .table ((t.visit s.modules).map fun (name, level) => (name, .text level)))])

namespace Settings

def toToml? (t : Members.Traversal String) (s : Settings) : Option (List (String × Toml)) :=
  (Toml.ofNat? s.bodyCap).bind fun cap =>
    s.sink.toToml?.map fun sink =>
      (s.diagnostics.map fun b => ("enable_diagnostics", Toml.flag b)).toList
        ++ [("request_body_max_size_bytes", cap), ("telemetry", sink), ("host", s.host.toToml),
          ("logging", s.logging.toToml t)]

def document : Option (List (String × Toml)) → Except HostError String
  | some members => .ok (Toml.writeDocument members)
  | none => .error (.settings "out-of-range value for u64 type")

/-- The text of the settings with the key masked. -/
def shown (t : Members.Traversal String) (s : Settings) : Except HostError String :=
  document (s.redacted.toToml? t)

end Settings

end TelemetryGate
