import TelemetryGate.Manager
import TelemetryGate.Delivery.Message
import TelemetryGate.Delivery.Post
import TelemetryGate.Delivery.Queue

/-!
# A client that posts

Events are encoded when they are tracked and wait in a queue; a worker posts them one by one.

* `Sink.create`   a client of settings that hold;
* `Sink.track`    an event, put into the queue;
* `Sink.settle`   the worker's post is answered, and it takes the next;
* `Sink.close`    nothing more may come;
* `Sink.outcomes` how the operations of a manager of such clients turn out;
* `Deliveries`    what is posted and logged for the calls of clients.
-/

namespace TelemetryGate

structure Sink where
  config : ClientConfig
  endpoint : Url
  queue : Queue String

namespace Sink

def defaultCapacity : Nat := 1024

def defaultTimeoutMs : Nat := 5000

/-- A client of settings that hold. -/
def create (config : ClientConfig) (capacity : Nat) : Except ClientFault Sink :=
  match config.validate with
  | .error f => .error f
  | .ok () => (Endpoint.ofDataplane config.dataplaneUrl).map fun endpoint =>
    ⟨config, endpoint, { capacity }⟩

def post (s : Sink) (body : String) : Post := ⟨s.endpoint, s.config.writeKey, body⟩

def track (event : String) (props : Properties) (stamp : Stamp) (s : Sink) :
    Except ReportError Sink :=
  (s.queue.offer (Message.ofEvent s.config event props stamp).encode).map fun q =>
    { s with queue := q }

def take (s : Sink) : Sink := { s with queue := s.queue.take }

def settle (s : Sink) : Sink := { s with queue := s.queue.finish }

/-- Nothing more may come; what waits is still posted. -/
def close (s : Sink) : Sink := { s with queue := s.queue.close }

def pending (s : Sink) : List Post := s.queue.pending.map s.post

/-- What is posted when the worker keeps up, and the client after that. -/
def drain (s : Sink) : List Post × Sink :=
  (s.pending, { s with queue := { s.queue with waiting := [], inHand := none } })

/-- How things turn out with clients that post: none is made of settings that do not hold, and a
worker that keeps up takes every event. -/
def outcomes (capacity : Nat) : Outcomes where
  create config := match create config capacity with
    | .ok _ => none
    | .error f => some (.invalidClient f)
  track := none
  close := none

end Sink

/-- What is posted and logged for the calls of clients, and the client that is open. -/
structure Deliveries where
  sink : Option Sink := none
  count : Nat := 0
  posts : List Post := []
  log : List LogRecord := []

namespace Deliveries

def step (capacity : Nat) (stamp : Nat → Stamp) (network : Post → Reply) (d : Deliveries) :
    ClientCall → Deliveries
  | .create _ config => { d with sink := (Sink.create config capacity).toOption }
  | .track _ event props _ =>
    match d.sink.map (Sink.track event props (stamp d.count)) with
    | some (.ok s) =>
      let (posts, s) := s.drain
      { sink := some s, count := d.count + 1, posts := d.posts ++ posts
        log := d.log ++ posts.map fun p => (network p).record }
    | _ => d
  | .close _ _ => { d with sink := none, log := d.log ++ [Reply.stopped] }

def ofCalls (capacity : Nat) (stamp : Nat → Stamp) (network : Post → Reply)
    (calls : List ClientCall) (d : Deliveries) : Deliveries :=
  calls.foldl (step capacity stamp network) d

end Deliveries

end TelemetryGate
