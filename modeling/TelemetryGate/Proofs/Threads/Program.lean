import TelemetryGate.Proofs.Callers.Run
import TelemetryGate.Proofs.Delivery.Program
import TelemetryGate.Proofs.Visitors.Program

/-!
# Threads at a gate

Threads make one operation of the gate after another.  Each call of the manager is made at the grain
of the manager's locks, and whoever tracks or closes goes on at the grain of the client's locks: the
one around the sender, and the one around the worker's handle.  Every client has its worker.

* `outcomes`           how calls turn out when clients post;
* `Client`             a client with its two locks and its worker;
* `Thread`             where a thread stands, `Thread.Goes` how it goes on between calls;
* `Meets`              what an act at the manager means for the clients;
* `Move`, `Step`       one step of a thread or of a worker;
* `Reachable`          the states they come to, from a manager that is off;
* `Move.Polite`        a step of one who does not read while another waits to write.
-/

namespace TelemetryGate

open Callers (Answer Request Shared)

/-! ### acts that clients take part in -/

/-- whether a client is made, or entered, or left -/
def Callers.Act.atClient : Callers.Act → Bool
  | endCreate (.ok _) | startTrack _ _ _ | endTrack _ _ _ _ | startClose _ | endClose _ _ => true
  | _ => false

/-- whether the lock of the handle is wanted to be written -/
def Callers.Stage.awaitsWrite : Callers.Stage → Bool
  | onCreated _ | offEnter => true
  | _ => false

/-- whether the act is one of the manager, done by entering or leaving the client -/
def Delivery.Act.atManager : Delivery.Act → Bool
  | track _ | close | finish _ => true
  | _ => false

/-- why tracking has failed, if it has -/
def Delivery.failure? : Except ReportError Unit → Option ReportError
  | .ok () => none
  | .error e => some e

namespace Threads

open Session (Operation)
open Visitors (Script script)

variable {κ : Type}

/-! ### clients -/

/-- How calls turn out when clients post. No client is made of settings that do not hold, and some
trouble may be in its way even if they do; a worker that is waited for stops in peace. -/
def outcomes (capacity : Nat) (trouble : Option String) (failure : Option ReportError) :
    Outcomes where
  create config := ((Sink.outcomes capacity).create config).or (trouble.map .creation)
  track := failure
  close := none

/-- A client with its two locks and its worker. -/
structure Client (κ : Type) where
  inner : Delivery.State κ
  /-- who holds the lock of the worker's handle -/
  handler : Option κ := none

/-- A client that was just made: its worker has nothing to do yet. -/
def Client.fresh (sink : Sink) : Client κ := { inner := { sink } }

/-! ### threads -/

/-- Where a thread stands. -/
inductive Thread where
  /-- it makes no call -/
  | idle
  /-- it makes an operation, and is about to make the next call or to load or store the cap -/
  | between (rest : Script)
  /-- it makes a call, and goes on with what it is answered -/
  | calling (request : Request) (next : Answer → Script) (stage : Callers.Stage)

namespace Thread

/-- the stage of the call -/
def stage : Thread → Callers.Stage
  | calling _ _ a => a
  | _ => .unborn

/-- How a thread goes on between calls, and the cap before and after. -/
inductive Goes (cap : Nat) : Thread → Nat → Thread → Prop
  | call {c next} : Goes cap (between (.call c next)) cap (calling c.request next .unborn)
  | back {request next answer} :
    Goes cap (calling request next (.returned answer)) cap (between (next answer))
  | load {next} : Goes cap (between (.load next)) cap (between (next cap))
  | store {new rest} : Goes cap (between (.store new rest)) new (between rest)
  | finish {reply} : Goes cap (between (.done reply)) cap idle

end Thread

/-! ### states -/

/-- What threads share, where each of them stands, and the clients that were made. -/
structure State (κ : Type) where
  shared : Shared κ := {}
  cap : Nat
  thread : κ → Thread := fun _ => .idle
  client : Nat → Option (Client κ) := fun _ => none

/-- What is done in one step. -/
inductive Move (κ : Type) where
  /-- a thread goes on between calls -/
  | go (k : κ)
  | act (k : κ) (act : Callers.Act)
  /-- a thread goes on inside a client -/
  | inside (n : Nat) (k : κ) (act : Delivery.Act)
  | hold (n : Nat) (k : κ)
  | release (n : Nat) (k : κ)
  | work (n : Nat) (labour : Delivery.Labour)

/-- When a thread inside a client can do something: it takes the worker only while it holds the lock
of the handle, and waits for the worker only when it does not. -/
def Client.Ready (c : Client κ) (k : κ) (act : Delivery.Act) : Prop :=
  act.Ready c.inner ∧ act.atManager = false ∧
    match act with
    | .takeWorker _ => c.handler = some k
    | .join => c.handler ≠ some k
    | _ => True

section
variable [DecidableEq κ]

/-- The client with a thread moved to another stage. -/
def Client.moved (c : Client κ) (k : κ) (b : Delivery.Stage) : Client κ :=
  { c with inner := { c.inner with stage := Function.update c.inner.stage k b } }

def State.to (s : State κ) (k : κ) (p : Thread) : State κ :=
  { s with thread := Function.update s.thread k p }

def State.withClient (s : State κ) (n : Nat) (c : Client κ) : State κ :=
  { s with client := Function.update s.client n (some c) }

/-- What an act of a thread at the manager means for the clients, as they are before and after. A
client's call ends when the thread has nothing left to do there, with what came of it. -/
inductive Meets (capacity : Nat) (k : κ) (before : Nat → Option (Client κ)) :
    Callers.Act → (Nat → Option (Client κ)) → Prop
  | create {made sink} (hs : Sink.create made.config capacity = .ok sink) :
    Meets capacity k before (.endCreate (.ok made))
      (Function.update before made.number (some (.fresh sink)))
  | startTrack {n event props c} (hc : before n = some c) (stamp : Stamp) :
    Meets capacity k before (.startTrack n event props)
      (Function.update before n (some (c.moved k (.trackStart ⟨event, props, stamp⟩))))
  | endTrack {n event props c x answer} (hc : before n = some c)
    (hk : c.inner.stage k = .trackLeaving x answer) :
    Meets capacity k before (.endTrack n event props (Delivery.failure? answer))
      (Function.update before n (some (c.moved k .outside)))
  | startClose {n c} (hc : before n = some c) :
    Meets capacity k before (.startClose n)
      (Function.update before n (some (c.moved k .closeStart)))
  | endClose {n c} (hc : before n = some c) (hk : c.inner.stage k = .closeLeaving)
    (hf : c.handler ≠ some k) :
    Meets capacity k before (.endClose n none)
      (Function.update before n (some (c.moved k .outside)))
  | away {act} (h : act.atClient = false) : Meets capacity k before act before

/-- The state after an act at the manager. -/
def State.acted (s : State κ) (k : κ) (act : Callers.Act) (p : Thread)
    (client : Nat → Option (Client κ)) : State κ where
  shared := act.effect k s.shared
  cap := s.cap
  thread := Function.update s.thread k p
  client := client

/-! ### steps -/

/-- One step of a thread or of a worker. -/
inductive Step (capacity : Nat) (s : State κ) : Move κ → State κ → Prop
  | go {k cap p} (h : Thread.Goes s.cap (s.thread k) cap p) :
    Step capacity s (.go k) ({ s with cap }.to k p)
  | act {k request next a act b client} {trouble : Option String} {failure : Option ReportError}
    (hk : s.thread k = .calling request next a)
    (stage : Callers.Stage.Next ⟨request, outcomes capacity trouble failure⟩ a act b)
    (ready : act.Ready s.shared) (meets : Meets capacity k s.client act client) :
    Step capacity s (.act k act) (s.acted k act (.calling request next b) client)
  | inside {n k c act b} (hc : s.client n = some c)
    (stage : Delivery.Stage.Next (c.inner.stage k) act b) (ready : c.Ready k act) :
    Step capacity s (.inside n k act) (s.withClient n { c with inner := c.inner.after k act b })
  | hold {n k c} (hc : s.client n = some c) (hk : c.inner.stage k = .closeWorker)
    (hfree : c.handler = none) :
    Step capacity s (.hold n k) (s.withClient n { c with handler := some k })
  | release {n k c} (hc : s.client n = some c) (hheld : c.handler = some k)
    (hk : c.inner.stage k ≠ .closeWorker) :
    Step capacity s (.release n k) (s.withClient n { c with handler := none })
  | work {n c labour sink worker} (hc : s.client n = some c)
    (step : Delivery.Step c.inner (c.inner.worked labour sink worker)) :
    Step capacity s (.work n labour)
      (s.withClient n { c with inner := c.inner.worked labour sink worker })

/-- The states that threads and workers come to, from a manager that is off, whatever the cap. An
idle thread may begin any operation at any time, and what waits for a lock to be read goes ahead
whenever nobody writes. -/
inductive Reachable (capacity : Nat) : State κ → Prop
  | start (cap : Nat) : Reachable capacity { cap }
  | begin {s : State κ} {k : κ} (h : Reachable capacity s) (hk : s.thread k = .idle)
    (op : Operation) (o : Outcomes) : Reachable capacity (s.to k (.between (script op o)))
  | step {s t : State κ} {m : Move κ} (h : Reachable capacity s) (step : Step capacity s m t) :
    Reachable capacity t

end

/-! ### politeness -/

/-- A lock is not taken to be read while anyone waits to write behind it. -/
def Move.Polite (s : State κ) : Move κ → Prop
  | act _ .startRead => ∀ j, (s.thread j).stage.awaitsWrite = false
  | inside n _ .startRead => ∀ c, s.client n = some c → ∀ j, c.inner.stage j ≠ .closeStart
  | _ => True

end Threads

end TelemetryGate
