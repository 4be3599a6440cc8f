import TelemetryGate.Host

/-!
# Texts that commands show

* `statusText`       whether events are reported, and where to;
* `registryText`     the names that are known;
* `validationText`   what is wrong with settings.
-/

namespace TelemetryGate.Command

def statusText (s : Status) : String :=
  if !s.enabled then "Telemetry: disabled"
  else
    "Telemetry: enabled"
      ++ (match s.dataplaneUrl with | some u => "\n  Dataplane: " ++ u | none => "")
      ++ (match s.diagnosticId with | some i => "\n  Diagnostic ID: " ++ i | none => "")

def registryText : String :=
  let indent (names : List String) : List String := names.map fun n => "  " ++ n
  String.intercalate "\n"
    (["Client events:"] ++ indent Registry.clientEvents
      ++ ["Client types:"] ++ indent Registry.clientTypes
      ++ ["Server events:"] ++ indent (ServerEvent.all.map ServerEvent.name))

/-- What is wrong with settings, each problem on its line; `none` stands for settings that hold. -/
def validationText : Option (List Settings.Problem) → String
  | none => "Configuration is valid"
  | some problems =>
    s!"Configuration has {problems.length} error(s):"
      ++ String.join (problems.map fun p => "\n  - " ++ p.message)

def problems? (s : Settings) : Option (List Settings.Problem) :=
  if s.problems.isEmpty then none else some s.problems

end TelemetryGate.Command
