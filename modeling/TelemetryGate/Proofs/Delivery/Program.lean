import Mathlib.Data.Finset.Basic
import Mathlib.Logic.Relation
import TelemetryGate.Delivery.Sink

/-!
# A client that posts, step by step

Callers track and close at the grain of the lock around the sender, which many may hold to read and
one to write; one worker takes what waits and posts it.  A post ends with some reply, whichever.

* `Item`                 an event on its way into the queue;
* `Stage`, `Act`         where a caller stands, and what it does next;
* `Worker`, `Labour`     where the worker stands, and what it does next;
* `Step`, `Reachable`    one step of a caller or of the worker, and the states they come to;
* `queued`, `begun`, `posted`   what was put into the queue, which posts began, and which ended.
-/

namespace TelemetryGate.Delivery

variable {κ : Type}

/-! ### items -/

/-- What is tracked, and the stamp of its message. -/
structure Item where
  event : String
  props : Properties
  stamp : Stamp

namespace Item

def payload (x : Item) (s : Sink) : String :=
  (Message.ofEvent s.config x.event x.props x.stamp).encode

def post (x : Item) (s : Sink) : Post := s.post (x.payload s)

def offer (x : Item) (s : Sink) : Except ReportError Sink := s.track x.event x.props x.stamp

/-- What a caller is answered who offers it. -/
def answer (x : Item) (s : Sink) : Except ReportError Unit := (x.offer s).map fun _ => ()

/-- The client once it was offered. -/
def offered (x : Item) (s : Sink) : Sink :=
  match x.offer s with
  | .ok s' => s'
  | .error _ => s

end Item

/-! ### callers -/

/-- Where a caller stands. -/
inductive Stage where
  | outside
  /-- tracking: it wants to read -/
  | trackStart (x : Item)
  | trackLook (x : Item)
  /-- it reads, and there is a sender -/
  | trackSend (x : Item)
  /-- it is about to read no more -/
  | trackDone (x : Item) (answer : Except ReportError Unit)
  | trackLeaving (x : Item) (answer : Except ReportError Unit)
  | tracked (x : Item) (answer : Except ReportError Unit)
  /-- closing: it wants to write -/
  | closeStart
  | closeTake
  | closeTaken
  /-- it writes no more, and wants the worker -/
  | closeWorker
  | closeJoin
  | closeLeaving
  | closed

/-- What a caller does in one step. -/
inductive Act where
  | track (x : Item)
  | close
  | startRead
  | look (found : Bool)
  | send (x : Item) (answer : Except ReportError Unit)
  | endRead
  | startWrite
  | takeSender
  | endWrite
  | takeWorker (found : Bool)
  /-- it waits until the worker has stopped -/
  | join
  | finish (answer : Except ReportError Unit)

/-- The steps of a caller. What it finds, and what comes of sending, are not its own choice. -/
inductive Stage.Next : Stage → Act → Stage → Prop
  | track {x} : Next .outside (.track x) (.trackStart x)
  | read {x} : Next (.trackStart x) .startRead (.trackLook x)
  | look {x} : Next (.trackLook x) (.look true) (.trackSend x)
  | lookNone {x} : Next (.trackLook x) (.look false) (.trackDone x (.error .closed))
  | send {x answer} : Next (.trackSend x) (.send x answer) (.trackDone x answer)
  | readDone {x answer} : Next (.trackDone x answer) .endRead (.trackLeaving x answer)
  | tracked {x answer} : Next (.trackLeaving x answer) (.finish answer) (.tracked x answer)
  | close : Next .outside .close .closeStart
  | write : Next .closeStart .startWrite .closeTake
  | takeSender : Next .closeTake .takeSender .closeTaken
  | writeDone : Next .closeTaken .endWrite .closeWorker
  | takeWorker : Next .closeWorker (.takeWorker true) .closeJoin
  | noWorker : Next .closeWorker (.takeWorker false) .closeLeaving
  | join : Next .closeJoin .join .closeLeaving
  | closed : Next .closeLeaving (.finish (.ok ())) .closed

/-! ### the worker -/

/-- Where the worker stands. -/
inductive Worker where
  | idle
  | holding (payload : String)
  | posting (payload : String)
  | stopped

/-- What the worker does in one step. -/
inductive Labour where
  | receive (payload : String)
  | startPost (p : Post)
  | endPost (p : Post) (reply : Reply)
  | stop

/-! ### states -/

inductive Event (κ : Type) where
  | call (k : κ) (act : Act)
  | work (labour : Labour)

/-- The client, its worker, who holds the lock of the sender, where every caller stands, and what
was done so far. -/
structure State (κ : Type) where
  sink : Sink
  worker : Worker := .idle
  /-- whether nobody has taken the worker to wait for it -/
  joinable : Bool := true
  writer : Option κ := none
  readers : Finset κ := ∅
  stage : κ → Stage := fun _ => .outside
  past : List (Event κ) := []

/-- When a caller can do something. The sender is there while the queue is open. -/
def Act.Ready (s : State κ) : Act → Prop
  | startRead => s.writer = none
  | startWrite => s.writer = none ∧ s.readers = ∅
  | look found => s.sink.queue.isOpen = found
  | send x answer => x.answer s.sink = answer
  | takeWorker found => s.joinable = found
  | join => s.worker = .stopped
  | _ => True

def Act.sink (s : Sink) : Act → Sink
  | send x _ => x.offered s
  | takeSender => s.close
  | _ => s

def Act.joinable (before : Bool) : Act → Bool
  | takeWorker _ => false
  | _ => before

/-- The state after a labour of the worker. -/
def State.worked (s : State κ) (labour : Labour) (sink : Sink) (worker : Worker) : State κ :=
  { s with sink, worker, past := s.past ++ [.work labour] }

theorem State.past_worked (s : State κ) (labour : Labour) (sink : Sink) (worker : Worker) :
    (s.worked labour sink worker).past = s.past ++ [.work labour] := rfl

section
variable [DecidableEq κ]

def Act.writer (k : κ) (before : Option κ) : Act → Option κ
  | startWrite => some k
  | endWrite => none
  | _ => before

def Act.readers (k : κ) (before : Finset κ) : Act → Finset κ
  | startRead => insert k before
  | endRead => before.erase k
  | _ => before

/-- The state after an act of a caller that brings it to a stage. -/
def State.after (s : State κ) (k : κ) (act : Act) (b : Stage) : State κ where
  sink := act.sink s.sink
  worker := s.worker
  joinable := act.joinable s.joinable
  writer := act.writer k s.writer
  readers := act.readers k s.readers
  stage := Function.update s.stage k b
  past := s.past ++ [.call k act]

theorem State.stage_after_self (s : State κ) (k : κ) (act : Act) (b : Stage) :
    (s.after k act b).stage k = b :=
  Function.update_self ..

theorem State.stage_after_of_ne (s : State κ) {j k : κ} (h : k ≠ j) (act : Act) (b : Stage) :
    (s.after j act b).stage k = s.stage k :=
  Function.update_of_ne h ..

theorem State.past_after (s : State κ) (k : κ) (act : Act) (b : Stage) :
    (s.after k act b).past = s.past ++ [.call k act] := rfl

/-- One step of a caller or of the worker. -/
inductive Step : State κ → State κ → Prop
  | call {s : State κ} {k : κ} {act : Act} {b : Stage} (ready : act.Ready s)
    (next : Stage.Next (s.stage k) act b) : Step s (s.after k act b)
  | receive {s : State κ} {payload : String} {rest : List String} (hw : s.worker = .idle)
    (hq : s.sink.queue.waiting = payload :: rest) :
    Step s (s.worked (.receive payload) s.sink.take (.holding payload))
  | startPost {s : State κ} {payload : String} (hw : s.worker = .holding payload) :
    Step s (s.worked (.startPost (s.sink.post payload)) s.sink (.posting payload))
  | endPost {s : State κ} {payload : String} (hw : s.worker = .posting payload) (reply : Reply) :
    Step s (s.worked (.endPost (s.sink.post payload) reply) s.sink.settle .idle)
  | stop {s : State κ} (hw : s.worker = .idle) (hq : s.sink.queue.waiting = [])
    (ho : s.sink.queue.isOpen = false) : Step s (s.worked .stop s.sink .stopped)

/-- The states that callers and the worker of a new client come to. -/
inductive Reachable (sink : Sink) : State κ → Prop
  | start : Reachable sink { sink }
  | step {s t : State κ} (h : Reachable sink s) (step : Step s t) : Reachable sink t

def Run : State κ → State κ → Prop := Relation.ReflTransGen Step

variable {sink : Sink} {s t : State κ}

theorem Reachable.run (h : Reachable sink t) (hrun : Run t s) : Reachable sink s := by
  induction hrun with
  | refl => exact h
  | tail _ st ih => exact ih.step st

theorem Reachable.call (h : Reachable sink s) (k : κ) {act : Act} {b : Stage}
    (next : Stage.Next (s.stage k) act b) (ready : act.Ready s) :
    Reachable sink (s.after k act b) :=
  h.step (.call ready next)

theorem Step.past (h : Step s t) : ∃ e, t.past = s.past ++ [e] := by
  cases h with
  | @call k act _ _ _ => exact ⟨.call k act, rfl⟩
  | receive hw hq => exact ⟨_, rfl⟩
  | startPost hw => exact ⟨_, rfl⟩
  | endPost hw reply => exact ⟨_, rfl⟩
  | stop hw hq ho => exact ⟨_, rfl⟩

theorem Run.past (h : Run t s) : t.past <+: s.past := by
  induction h with
  | refl => exact List.prefix_rfl
  | tail _ st ih =>
    obtain ⟨e, he⟩ := st.past
    rw [he]
    exact ih.trans (List.prefix_append _ [e])

end

/-! ### what was queued and posted -/

namespace Event

def queued : Event κ → List (κ × Item)
  | call k (.send x (.ok ())) => [(k, x)]
  | _ => []

def begun : Event κ → List Post
  | work (.startPost p) => [p]
  | _ => []

def posted : Event κ → List Post
  | work (.endPost p _) => [p]
  | _ => []

end Event

/-- What callers put into the queue, in order. -/
def queued (past : List (Event κ)) : List (κ × Item) := past.flatMap Event.queued

/-- The posts that the worker began, in order. -/
def begun (past : List (Event κ)) : List Post := past.flatMap Event.begun

/-- The posts that were replied to, in order. -/
def posted (past : List (Event κ)) : List Post := past.flatMap Event.posted

section
variable (past : List (Event κ)) (e : Event κ)

theorem queued_snoc : queued (past ++ [e]) = queued past ++ e.queued := by
  rw [queued, List.flatMap_append, List.flatMap_singleton]
  rfl

theorem begun_snoc : begun (past ++ [e]) = begun past ++ e.begun := by
  rw [begun, List.flatMap_append, List.flatMap_singleton]
  rfl

theorem posted_snoc : posted (past ++ [e]) = posted past ++ e.posted := by
  rw [posted, List.flatMap_append, List.flatMap_singleton]
  rfl

variable {e}

theorem queued_of_nil (h : e.queued = []) : queued (past ++ [e]) = queued past := by
  rw [queued_snoc, h, List.append_nil]

theorem begun_of_nil (h : e.begun = []) : begun (past ++ [e]) = begun past := by
  rw [begun_snoc, h, List.append_nil]

theorem posted_of_nil (h : e.posted = []) : posted (past ++ [e]) = posted past := by
  rw [posted_snoc, h, List.append_nil]

end

end TelemetryGate.Delivery
