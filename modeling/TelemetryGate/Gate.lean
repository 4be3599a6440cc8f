import TelemetryGate.Body
import TelemetryGate.Manager

/-!
# The gate for submissions

A submission passes if reporting is on, its body is short enough and holds a request, and the event
and the kind of client are known.  The first check that fails decides.

* `Gate`                  the manager and how long a body may be;
* `Gate.reading`          the request in a body, and the bytes that were taken for it;
* `Gate.submit`           a request that is read already;
* `Gate.ingestion`        a body, and the bytes that were taken of it;
* `Gate.readRequest`, `Gate.ingest`   the same without those bytes.
-/

namespace TelemetryGate

/-- The manager and how many bytes a body may have. -/
structure Gate where
  manager : Manager := {}
  cap : Nat

namespace Gate

def target : String := "calls_telemetry::telemetry::ingest"

/-- What reading a body comes to: a request, and the bytes that were taken for it. -/
structure Reading where
  request : Except BodyFault TrackRequest
  taken : List UInt8

/-- How many bytes of a body are wanted: one more than the cap, to see whether it is longer, as far
as 64 bits count. -/
def wanted (cap : Nat) : Nat := min (cap + 1) Word.most

/-- The request in what was taken of a body of at most `cap` bytes. What follows the request is
ignored. -/
def requestIn (cap : Nat) (taken : Taken) : Except BodyFault TrackRequest :=
  match taken.failure with
  | some reason => .error (.unreadable reason)
  | none =>
    if cap < taken.bytes.length then .error .tooLarge
    else if (Json.skipBlanks taken.bytes).isEmpty then .error .empty
    else
      match TrackRequest.reader taken.bytes with
      | .error f => .error (.undecodable (f.message taken.bytes))
      | .ok r => .ok r.value

def reading (cap : Nat) (body : Body) : Reading :=
  let taken := body.take (wanted cap)
  ⟨requestIn cap taken, taken.bytes⟩

def readRequest (cap : Nat) (body : Body) : Except BodyFault TrackRequest :=
  (reading cap body).request

/-- Hands the request of an actor to the client if it passes; the name of its event. -/
def submit (r : TrackRequest) (actor : String) (o : Outcomes) (g : Gate) :
    Done Gate (Except Rejection String) :=
  if !g.manager.isEnabled then { answer := .error .disabled, state := g }
  else if !Registry.isClientEvent r.event then { answer := .error .unknownEvent, state := g }
  else if !Registry.isClientType r.clientType then
    { answer := .error .unknownClientType, state := g }
  else
    let s := Submission.ofRequest r actor
    let log := [{ level := .debug, target, message := "forwarding client event"
                  fields := [("event", .plain s.event), ("client_type", .plain s.clientType)] }]
    ((g.manager.track s.event s.forwarded o).lift fun m => { g with manager := m }).after log
      |>.map fun () => .ok s.event

/-- What comes of a body: what is done, and the bytes that were taken of it. -/
structure Ingestion where
  done : Done Gate (Except Rejection String)
  taken : List UInt8

/-- Hands the request in a body to the client if it passes. -/
def ingestion (body : Body) (actor : String) (o : Outcomes) (g : Gate) : Ingestion :=
  if !g.manager.isEnabled then { done := { answer := .error .disabled, state := g }, taken := [] }
  else
    let read := reading g.cap body
    { done :=
        match read.request with
        | .error f => { answer := .error (.malformed f), state := g }
        | .ok r => g.submit r actor o
      taken := read.taken }

def ingest (body : Body) (actor : String) (o : Outcomes) (g : Gate) :
    Done Gate (Except Rejection String) :=
  (g.ingestion body actor o).done

theorem ingest_eq (body : Body) (actor : String) (o : Outcomes) (g : Gate) :
    g.ingest body actor o =
      if !g.manager.isEnabled then { answer := .error .disabled, state := g }
      else
        match readRequest g.cap body with
        | .error f => { answer := .error (.malformed f), state := g }
        | .ok r => g.submit r actor o := by
  unfold ingest ingestion
  split <;> rfl

def onManager {α : Type} (f : Manager → Done Manager α) (g : Gate) : Done Gate α :=
  (f g.manager).lift fun m => { g with manager := m }

end Gate

end TelemetryGate
