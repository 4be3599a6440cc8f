import TelemetryGate.Url

/-!
# What can go wrong

* `ReportError`      a client cannot take or deliver an event;
* `ClientFault`      a client cannot be built from its settings;
* `LifecycleError`   reporting cannot be switched on or off;
* `Rejection`        a submission is refused;
* `HostError`        a command fails.
-/

namespace TelemetryGate

/-- A client cannot take or deliver an event. -/
inductive ReportError where
  | closed
  | queueFull
  | encoding (reason : String)
  | delivery (reason : String)
deriving DecidableEq

def ReportError.message : ReportError → String
  | closed => "Telemetry client is closed"
  | queueFull => "Telemetry event queue is full"
  | encoding reason => "Failed to encode telemetry event: " ++ reason
  | delivery reason => "Telemetry delivery failed: " ++ reason

/-- A client cannot be built from its settings. -/
inductive ClientFault where
  | blankWriteKey
  | blankDiagnosticId
  | badUrl (url : String) (cause : Url.Error)
  | badScheme (scheme : String)
  /-- another reason of whoever builds the client -/
  | refused (reason : String)
deriving DecidableEq

def ClientFault.message : ClientFault → String
  | blankWriteKey => "write key cannot be empty"
  | blankDiagnosticId => "diagnostic id cannot be empty"
  | badUrl url cause => "invalid dataplane url '" ++ url ++ "': " ++ cause.message
  | badScheme scheme => "dataplane url must be http or https, got '" ++ scheme ++ "'"
  | refused reason => reason

/-- Reporting cannot be switched on or off. -/
inductive LifecycleError where
  | invalidClient (fault : ClientFault)
  | creation (reason : String)
  | close (cause : ReportError)
deriving DecidableEq

def LifecycleError.message : LifecycleError → String
  | invalidClient fault => "Invalid telemetry client config: " ++ fault.message
  | creation reason => "Failed to initialize telemetry client: " ++ reason
  | close cause => "Failed to close telemetry client: " ++ cause.message

/-- Why the body of a submission is no request. -/
inductive BodyFault where
  | unreadable (reason : String)
  | tooLarge
  | empty
  | undecodable (reason : String)
deriving DecidableEq

def BodyFault.message : BodyFault → String
  | unreadable reason => reason
  | tooLarge => "http: request body too large"
  | empty => "EOF"
  | undecodable reason => reason

/-- A submission is refused. -/
inductive Rejection where
  | disabled
  | malformed (fault : BodyFault)
  | unknownEvent
  | unknownClientType
deriving DecidableEq

/-- The words for it, which the client sees. -/
def Rejection.message : Rejection → String
  | disabled => "telemetry is disabled"
  | malformed fault => fault.message
  | unknownEvent => "invalid telemetry event"
  | unknownClientType => "invalid client type"

/-- A command fails. -/
inductive HostError where
  | settings (reason : String)
  | lifecycle (cause : LifecycleError)
  | io (reason : String)
  | watch (reason : String)
deriving DecidableEq

def HostError.message : HostError → String
  | settings reason => "Configuration error: " ++ reason
  | lifecycle cause => cause.message
  | io reason => "I/O error: " ++ reason
  | watch reason => "Watch error: " ++ reason

/-- The words for it on the command line, which say where a lifecycle error comes from. -/
def HostError.report : HostError → String
  | lifecycle cause => "Telemetry lifecycle error: " ++ cause.message
  | e => e.message

end TelemetryGate
