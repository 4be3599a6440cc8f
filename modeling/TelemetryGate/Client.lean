import TelemetryGate.Failure
import TelemetryGate.Event
import TelemetryGate.Text.Blank
import TelemetryGate.Url.Reader

/-!
# Settings of a client

* `ClientConfig`            what a client is built from;
* `ClientConfig.validate`   what it must satisfy;
* `Provider`                the values a host knows, and the settings they make.
-/

namespace TelemetryGate

structure ClientConfig where
  writeKey : String := ""
  dataplaneUrl : String := ""
  diagnosticId : String := ""
  /-- properties that every event has unless it says otherwise -/
  defaultProps : Properties := []

namespace ClientConfig

/-- All but the default properties must be given. -/
def form : Form Kind Kind.El ClientConfig where
  name := "ClientConfig"
  blank := {}
  slots :=
    [{ name := "write_key", required := true, kind := .text
       store := fun v r => { r with writeKey := v } },
     { name := "dataplane_url", required := true, kind := .text
       store := fun v r => { r with dataplaneUrl := v } },
     { name := "diagnostic_id", required := true, kind := .text
       store := fun v r => { r with diagnosticId := v } },
     { name := "default_props", kind := .properties
       store := fun v r => { r with defaultProps := v } }]

def decode (bytes : List UInt8) : Except Json.Fault ClientConfig :=
  Json.readWhole (Json.readRecord Json.readKind form Json.maxDepth) bytes

def members (c : ClientConfig) : List (String × String) :=
  [("write_key", Json.quote c.writeKey), ("dataplane_url", Json.quote c.dataplaneUrl),
    ("diagnostic_id", Json.quote c.diagnosticId),
    ("default_props", (Json.object c.defaultProps).compact)]

def encode (c : ClientConfig) : String := Json.record c.members

/-- The text of the settings, members sorted by name. -/
def encodeSorted (c : ClientConfig) : String := Json.record (Members.ofList c.members)

/-- The scheme of a dataplane must be one that events can be posted over. -/
def checkUrl (url : String) : Except ClientFault Url :=
  match Url.parse url with
  | .error e => .error (.badUrl url e)
  | .ok u => if u.scheme = "http" || u.scheme = "https" then .ok u else .error (.badScheme u.scheme)

/-- A client needs a key, an id and a dataplane, the first that is wrong deciding. -/
def validate (c : ClientConfig) : Except ClientFault Unit :=
  if Text.isBlankText c.writeKey then .error .blankWriteKey
  else if Text.isBlankText c.diagnosticId then .error .blankDiagnosticId
  else (checkUrl c.dataplaneUrl).map fun _ => ()

end ClientConfig

/-- The values that a host knows of itself and of its dataplane. -/
structure Provider where
  writeKey : String
  dataplaneUrl : String
  diagnosticId : String
  serverVersion : String
  pluginVersion : String
  buildHash : String

/-- The settings of a client for the host: its versions go with every event. -/
def Provider.clientConfig (p : Provider) : ClientConfig :=
  { writeKey := p.writeKey
    dataplaneUrl := p.dataplaneUrl
    diagnosticId := p.diagnosticId
    defaultProps := Members.ofList
      [("ServerVersion", .text p.serverVersion), ("PluginVersion", .text p.pluginVersion),
        ("PluginBuild", .text p.buildHash)] }

end TelemetryGate
