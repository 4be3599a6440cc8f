import TelemetryGate.Client
import TelemetryGate.Log
import TelemetryGate.Registry

/-!
# The manager of the client

The manager holds at most one live client, made when reporting is switched on and closed when it is
switched off.  What clients do is given with each operation (`Outcomes`), and what is asked of them
comes out as a list of calls.

* `Outcomes`         how creation, tracking and closing turn out;
* `ClientCall`       what a client is asked to do;
* `Done`             what an operation answers, leaves behind, asks of clients and logs;
* `Manager.enable`, `disable`, `track`, `shutDown`.
-/

namespace TelemetryGate

/-- How things turn out while an operation runs. -/
structure Outcomes where
  /-- why no client is made from the settings, if none is -/
  create : ClientConfig → Option LifecycleError
  track : Option ReportError
  close : Option ReportError

/-- A client of settings that hold, which takes every event. -/
def Outcomes.good : Outcomes where
  create c := match c.validate with
    | .ok () => none
    | .error f => some (.invalidClient f)
  track := none
  close := none

/-- What a client is asked to do, and how it turns out. Clients are numbered from one. -/
inductive ClientCall where
  | create (client : Nat) (config : ClientConfig)
  | track (client : Nat) (event : String) (props : Properties) (failure : Option ReportError)
  | close (client : Nat) (failure : Option ReportError)

/-- What an operation answers, the state it leaves, what it asks of clients and what it logs. -/
structure Done (σ α : Type) where
  answer : α
  state : σ
  calls : List ClientCall := []
  log : List LogRecord := []

namespace Done

variable {σ τ α β : Type}

def lift (f : σ → τ) (d : Done σ α) : Done τ α := { d with state := f d.state }

def map (f : α → β) (d : Done σ α) : Done σ β := { d with answer := f d.answer }

def andThen (d : Done σ α) (next : α → σ → Done σ β) : Done σ β :=
  let e := next d.answer d.state
  { e with calls := d.calls ++ e.calls, log := d.log ++ e.log }

def after (log : List LogRecord) (d : Done σ α) : Done σ α := { d with log := log ++ d.log }

end Done

/-- A live client: its number and what it was built from. -/
structure LiveClient where
  number : Nat
  config : ClientConfig

/-- The client if reporting is on, and how many were made so far. -/
structure Manager where
  live : Option LiveClient := none
  created : Nat := 0

structure Status where
  enabled : Bool
  dataplaneUrl : Option String := none
  diagnosticId : Option String := none
deriving DecidableEq

namespace Status

def members (s : Status) : List (String × String) :=
  [("enabled", if s.enabled then "true" else "false")]
    ++ (s.dataplaneUrl.map fun u => ("dataplane_url", Json.quote u)).toList
    ++ (s.diagnosticId.map fun i => ("diagnostic_id", Json.quote i)).toList

def encode (s : Status) : String := Json.record s.members

end Status

namespace Manager

def target : String := "calls_telemetry::telemetry::manager"

def isEnabled (m : Manager) : Bool := m.live.isSome

/-- The status: where events go, but not the key. -/
def status (m : Manager) : Status :=
  match m.live with
  | some c => ⟨true, some c.config.dataplaneUrl, some c.config.diagnosticId⟩
  | none => ⟨false, none, none⟩

/-- Switches reporting on; nothing happens if it is. -/
def enable (config : ClientConfig) (o : Outcomes) (m : Manager) :
    Done Manager (Except LifecycleError Unit) :=
  match m.live with
  | some _ => { answer := .ok (), state := m }
  | none =>
    let log := [{ level := .debug, target, message := "Initializing telemetry" }]
    match o.create config with
    | some e => { answer := .error e, state := m, log }
    | none =>
      let n := m.created + 1
      { answer := .ok (), state := ⟨some ⟨n, config⟩, n⟩, calls := [.create n config], log }

/-- Switches reporting off; nothing happens if it is. The client is gone even if closing fails. -/
def disable (o : Outcomes) (m : Manager) : Done Manager (Except LifecycleError Unit) :=
  match m.live with
  | none => { answer := .ok (), state := m }
  | some c =>
    { answer := match o.close with | some e => .error (.close e) | none => .ok ()
      state := { m with live := none }
      calls := [.close c.number o.close]
      log := [{ level := .debug, target, message := "Deinitializing telemetry" }] }

def setEnabled (on : Bool) (config : ClientConfig) (o : Outcomes) (m : Manager) :
    Done Manager (Except LifecycleError Unit) :=
  if on then m.enable config o else m.disable o

/-- Hands an event to the client if there is one; failures are logged and go no further. -/
def track (event : String) (props : Properties) (o : Outcomes) (m : Manager) :
    Done Manager Unit :=
  match m.live with
  | none => { answer := (), state := m }
  | some c =>
    { answer := ()
      state := m
      calls := [.track c.number event props o.track]
      log := match o.track with
        | none => []
        | some e =>
          [{ level := .error, target, message := "failed to track telemetry event"
             fields := [("event", .plain event), ("error", .plain e.message)] }] }

def trackServerEvent (event : ServerEvent) (props : Properties) (o : Outcomes) (m : Manager) :
    Done Manager Unit :=
  m.track event.name props o

/-- Closes the client for good; a failure is logged. -/
def shutDown (o : Outcomes) (m : Manager) : Done Manager Unit :=
  match m.live with
  | none => { answer := (), state := m }
  | some c =>
    { answer := ()
      state := { m with live := none }
      calls := [.close c.number o.close]
      log := match o.close with
        | none => []
        | some e =>
          [{ level := .warn, target, message := "failed to close telemetry client on shutdown"
             fields := [("error", .plain e.message)] }] }

end Manager

end TelemetryGate
