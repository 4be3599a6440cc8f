import TelemetryGate.Form
import TelemetryGate.Json.Record
import TelemetryGate.Json.Conversion
import TelemetryGate.Json.Printer

/-!
# Events that clients submit

* `TrackRequest`   what a client says;
* `Submission`     a request with the properties that will be forwarded, stamped with who sent it.
-/

namespace TelemetryGate

/-- What a client says: an event, the kind of client, where it came from, and properties. -/
structure TrackRequest where
  event : String := ""
  clientType : String := ""
  source : Option String := none
  props : Option Properties := none

namespace TrackRequest

/-- A slot has two spellings; an absent or null name counts as empty. -/
def form : Form Kind Kind.El TrackRequest where
  name := "TrackEventRequest"
  blank := {}
  slots :=
    [{ name := "event", alsoNamed := some "Event", kind := .textOrEmpty
       store := fun v r => { r with event := v } },
     { name := "clientType", alsoNamed := some "ClientType", kind := .textOrEmpty
       store := fun v r => { r with clientType := v } },
     { name := "source", alsoNamed := some "Source", kind := .optional .text
       store := fun v r => { r with source := v } },
     { name := "props", alsoNamed := some "Props", kind := .optional .properties
       store := fun v r => { r with props := v } }]

def reader : Json.Reader TrackRequest :=
  Json.readRecord Json.readKind form Json.maxDepth

def decode (bytes : List UInt8) : Except Json.Fault TrackRequest := Json.readWhole reader bytes

/-- The text of a request; what it has none of is left out. -/
def encode (r : TrackRequest) : String :=
  Json.record (
    [("event", Json.quote r.event), ("clientType", Json.quote r.clientType)]
      ++ (r.source.map fun s => ("source", Json.quote s)).toList
      ++ (r.props.map fun p => ("props", (Json.object p).compact)).toList)

end TrackRequest

structure Submission where
  event : String
  clientType : String
  source : Option String
  properties : Properties
  actor : String

namespace Submission

def sourceName : String := "Source"

def actorName : String := "ActualUserID"

def clientTypeName : String := "ClientType"

def ofRequest (r : TrackRequest) (actor : String) : Submission :=
  { event := r.event, clientType := r.clientType, source := r.source
    properties := r.props.getD [], actor }

/-- The properties to forward: the actor and the kind of client stand over what the client says of
them, and so does the source if there is one. -/
def forwarded (s : Submission) : Properties :=
  let sourced := match s.source with
    | none => s.properties
    | some source =>
      if source = "" then s.properties
      else Members.insert sourceName (.text source) s.properties
  Members.insert clientTypeName (.text s.clientType)
    (Members.insert actorName (.text s.actor) sourced)

end Submission

end TelemetryGate
