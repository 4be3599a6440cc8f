import TelemetryGate.Delivery.Stamp
import TelemetryGate.Settings

/-!
# Messages to a dataplane

* `Stamp`            which message it is and when it was made;
* `Stamp.ofMoment`   the stamp of a message that a process makes;
* `Message`          an event as it is sent;
* `Message.ofEvent`  the message of an event of a client;
* `Message.encode`   its text.
-/

namespace TelemetryGate

/-- Which message it is and when it was made, as texts. -/
structure Stamp where
  id : String
  moment : String

def Stamp.ofMoment (millis : Int) (process n : Nat) : Stamp where
  id := (MessageId.ofWords millis.toInt64 process.toUInt32 (MessageCounter.after n).next).text
  moment := Moment.text millis

structure Message where
  event : String
  sender : String
  stamp : Stamp
  properties : Properties

namespace Message

/-- The message of an event: the properties of the event stand over those that every event has. -/
def ofEvent (config : ClientConfig) (event : String) (props : Properties) (stamp : Stamp) :
    Message :=
  { event, sender := config.diagnosticId, stamp
    properties := Members.extend config.defaultProps props }

/-- the text of what says which program sends -/
def library : String :=
  Json.record [("library",
    Json.record [("name", Json.quote programName), ("version", Json.quote version)])]

def encode (m : Message) : String :=
  Json.record
    [("type", Json.quote "track"), ("event", Json.quote m.event),
      ("userId", Json.quote m.sender), ("anonymousId", Json.quote m.sender),
      ("messageId", Json.quote m.stamp.id), ("timestamp", Json.quote m.stamp.moment),
      ("properties", (Json.object m.properties).compact), ("context", library)]

end Message

end TelemetryGate
