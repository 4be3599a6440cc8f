import TelemetryGate.Proofs.Callers.Program
import TelemetryGate.Proofs.Calls
import TelemetryGate.Proofs.Gate.Requests

/-!
# A session

The operations of a gate and of its manager, one after another.

* `Operation`, `Operation.run`   what is asked, and what comes of it;
* `Step`, `run`, `runAndDrop`    operations with how things turn out, and the end of a session;
* `Entry`, `history`             what was asked and answered, with what went before;
* `Operation.errand`             what an operation asks of the manager, if anything;
* `Operation.run_calls`, `Operation.run_state`   every operation is an errand and sets the cap.
-/

namespace TelemetryGate

open Callers (Request Answer Errand Question)

/-! ### errands of the manager -/

namespace Callers

/-- An errand, made alone. -/
def Errand.run (e : Errand) (o : Outcomes) (m : Manager) : Done Manager Answer :=
  match e with
  | on config => (m.enable config o).map .switched
  | off => (m.disable o).map .switched
  | ask q => q.run o m

theorem Call.run_eq (c : Call) (m : Manager) : c.run m = c.request.errand.run c.outcomes m := by
  cases h : c.request.errand with
  | on config => exact Call.run_on h m
  | off => exact Call.run_off h m
  | ask q => exact Call.run_ask h m

end Callers

namespace Session

/-! ### operations -/

inductive Operation where
  | manage (r : Request)
  | applySettings (s : Settings)
  | ingest (body : Body) (actor : String)
  | submit (r : TrackRequest) (actor : String)
  | handle (body : Body) (actor : String)
  | setCap (cap : Nat)

inductive Reply where
  | managed (a : Answer)
  | applied (result : Except LifecycleError Unit)
  | judged (verdict : Except Rejection String)
  | answered (r : Response)
  | capSet

def Operation.run (op : Operation) (o : Outcomes) (g : Gate) : Done Gate Reply :=
  match op with
  | manage r => (g.onManager (Callers.Call.run ⟨r, o⟩)).map .managed
  | applySettings s => (g.applySettings s o).map .applied
  | ingest body actor => (g.ingest body actor o).map .judged
  | submit r actor => (g.submit r actor o).map .judged
  | handle body actor => (g.handle body actor o).map .answered
  | setCap cap => { answer := .capSet, state := { g with cap } }

/-- An operation, and how things turn out while it runs. -/
structure Step where
  operation : Operation
  outcomes : Outcomes

def Step.run (s : Step) (g : Gate) : Done Gate Reply := s.operation.run s.outcomes g

/-- A gate whose manager is off. -/
def fresh (cap : Nat) : Gate := { cap }

def run (g : Gate) : List Step → Done Gate (List Reply)
  | [] => { answer := [], state := g }
  | s :: rest => (s.run g).andThen fun reply g => (run g rest).map (reply :: ·)

/-- A session at whose end the manager goes. -/
def runAndDrop (g : Gate) (steps : List Step) (o : Outcomes) : Done Gate (List Reply) :=
  (run g steps).andThen fun replies g => (g.onManager (Manager.shutDown o)).map fun () => replies

/-- What was asked and answered, at which gate, and what clients had been asked before. -/
structure Entry where
  operation : Operation
  gate : Gate
  earlier : List ClientCall
  reply : Reply
  calls : List ClientCall

def Step.entry (s : Step) (g : Gate) (earlier : List ClientCall) : Entry :=
  ⟨s.operation, g, earlier, (s.run g).answer, (s.run g).calls⟩

def history (g : Gate) (earlier : List ClientCall) : List Step → List Entry
  | [] => []
  | s :: rest => s.entry g earlier :: history (s.run g).state (earlier ++ (s.run g).calls) rest

theorem run_calls (g : Gate) (earlier : List ClientCall) (steps : List Step) :
    (run g steps).calls = (history g earlier steps).flatMap Entry.calls := by
  induction steps generalizing g earlier with
  | nil => rfl
  | cons s rest ih =>
    rw [history, List.flatMap_cons, ← ih]
    rfl

theorem run_answer (g : Gate) (earlier : List ClientCall) (steps : List Step) :
    (run g steps).answer = (history g earlier steps).map Entry.reply := by
  induction steps generalizing g earlier with
  | nil => rfl
  | cons s rest ih =>
    rw [history, List.map_cons, ← ih]
    rfl

/-! ### what an operation asks of the manager -/

/-- What goes out for a request of an actor. -/
def outgoing (actor : String) (r : TrackRequest) : String × Properties :=
  (r.event, (Submission.ofRequest r actor).forwarded)

/-- The errand of a request that passes. -/
def requestErrand (r : TrackRequest) (actor : String) : Option Errand :=
  match r.fault? with
  | none => some (.ask (.track r.event (Submission.ofRequest r actor).forwarded))
  | some _ => none

/-- The errand of a body, under a cap. -/
def bodyErrand (cap : Nat) (body : Body) (actor : String) : Option Errand :=
  match Gate.readRequest cap body with
  | .ok r => requestErrand r actor
  | .error _ => none

namespace Operation

def errand (cap : Nat) : Operation → Option Errand
  | manage r => some r.errand
  | applySettings s => some (if s.reports then .on s.clientConfig else .off)
  | ingest body actor | handle body actor => bodyErrand cap body actor
  | submit r actor => requestErrand r actor
  | setCap _ => none

/-- whether it is to switch reporting off -/
def switchesOff : Operation → Bool
  | manage .disable => true
  | manage (.setEnabled on _) => !on
  | applySettings s => !s.reports
  | _ => false

/-- The cap after the operation. -/
def cap (before : Nat) : Operation → Nat
  | applySettings s => if s.bodyCap = 0 then before else s.bodyCap
  | setCap cap => cap
  | _ => before

end Operation

/-- An errand made alone, or nothing. -/
def perform (e : Option Errand) (o : Outcomes) (m : Manager) : Done Manager (Option Answer) :=
  match e with
  | some e => (e.run o m).map some
  | none => { answer := none, state := m }

section
variable {g : Gate} {r : TrackRequest} {body : Body}

/-- At a gate that is off, nothing comes of what would be tracked. -/
theorem perform_track_of_off {m : Manager} (h : m.live = none) (event : String)
    (props : Properties) (o : Outcomes) :
    (perform (some (.ask (.track event props))) o m).state = m ∧
      (perform (some (.ask (.track event props))) o m).calls = [] := by
  have hrun : (Question.track event props).run o m = { answer := .tracked, state := m } := by
    show (m.track event props o).map (fun _ => Answer.tracked) = _
    rw [Manager.track_of_none h]
    rfl
  constructor
  · show ((Question.track event props).run o m).state = m
    rw [hrun]
  · show ((Question.track event props).run o m).calls = []
    rw [hrun]

theorem perform_request_of_off {m : Manager} (h : m.live = none) (r : TrackRequest)
    (actor : String) (o : Outcomes) :
    (perform (requestErrand r actor) o m).state = m ∧
      (perform (requestErrand r actor) o m).calls = [] := by
  unfold requestErrand
  cases r.fault? with
  | none => exact perform_track_of_off h _ _ o
  | some reason => exact ⟨rfl, rfl⟩

theorem perform_body_of_off {m : Manager} (h : m.live = none) (cap : Nat) (body : Body)
    (actor : String) (o : Outcomes) :
    (perform (bodyErrand cap body actor) o m).state = m ∧
      (perform (bodyErrand cap body actor) o m).calls = [] := by
  unfold bodyErrand
  cases Gate.readRequest cap body with
  | ok r => exact perform_request_of_off h r actor o
  | error f => exact ⟨rfl, rfl⟩

/-- The cap changes first, unless it would be zero, and then the manager is switched. -/
theorem applySettings_eq (g : Gate) (s : Settings) (o : Outcomes) :
    (g.applySettings s o).answer = (g.manager.setEnabled s.reports s.clientConfig o).answer ∧
      (g.applySettings s o).state =
        ⟨(g.manager.setEnabled s.reports s.clientConfig o).state,
          if s.bodyCap = 0 then g.cap else s.bodyCap⟩ ∧
      (g.applySettings s o).calls = (g.manager.setEnabled s.reports s.clientConfig o).calls := by
  unfold Gate.applySettings
  by_cases hc : s.bodyCap = 0
  · rw [if_pos hc, if_pos hc]
    exact ⟨rfl, rfl, rfl⟩
  · rw [if_neg hc, if_neg hc]
    exact ⟨rfl, rfl, rfl⟩

theorem perform_settings (s : Settings) (o : Outcomes) (m : Manager) :
    perform (some (if s.reports then .on s.clientConfig else .off)) o m =
      (m.setEnabled s.reports s.clientConfig o).map fun result => some (.switched result) := by
  unfold Manager.setEnabled
  cases s.reports <;> rfl

theorem submit_eq (g : Gate) (r : TrackRequest) (actor : String) (o : Outcomes) :
    (g.submit r actor o).state = g ∧
      (perform (requestErrand r actor) o g.manager).state = g.manager ∧
      (g.submit r actor o).calls = (perform (requestErrand r actor) o g.manager).calls := by
  cases hl : g.manager.live with
  | none =>
    obtain ⟨hstate, hcalls⟩ := perform_request_of_off hl r actor o
    rw [Gate.submit_of_off hl]
    exact ⟨rfl, hstate, hcalls.symm⟩
  | some client =>
    cases hf : r.fault? with
    | some reason =>
      rw [Gate.submit_of_fault hl hf, requestErrand, hf]
      exact ⟨rfl, rfl, rfl⟩
    | none =>
      obtain ⟨_, hstate, hcalls⟩ := Gate.submit_of_clear hl hf actor o
      rw [requestErrand, hf]
      refine ⟨hstate, Manager.track_state .., ?_⟩
      rw [hcalls]
      exact (Manager.track_calls_of_live hl).symm

theorem ingest_eq (g : Gate) (body : Body) (actor : String) (o : Outcomes) :
    (g.ingest body actor o).state = g ∧
      (perform (bodyErrand g.cap body actor) o g.manager).state = g.manager ∧
      (g.ingest body actor o).calls =
        (perform (bodyErrand g.cap body actor) o g.manager).calls := by
  cases hl : g.manager.live with
  | none =>
    obtain ⟨hstate, hcalls⟩ := perform_body_of_off hl g.cap body actor o
    rw [Gate.ingest_of_off hl]
    exact ⟨rfl, hstate, hcalls.symm⟩
  | some client =>
    cases hr : Gate.readRequest g.cap body with
    | error f =>
      rw [Gate.ingest_of_fault hl hr, bodyErrand, hr]
      exact ⟨rfl, rfl, rfl⟩
    | ok r =>
      rw [Gate.ingest_of_request hl hr, bodyErrand, hr]
      exact submit_eq g r actor o

end

/-! ### every operation -/

namespace Operation

variable (op : Operation) (o : Outcomes) (g : Gate)

theorem run_calls : (op.run o g).calls = (perform (op.errand g.cap) o g.manager).calls := by
  cases op with
  | manage r =>
    show (Callers.Call.run ⟨r, o⟩ g.manager).calls = _
    rw [Callers.Call.run_eq]
    rfl
  | applySettings s =>
    show (g.applySettings s o).calls = (perform (some (if s.reports then _ else _)) o _).calls
    rw [perform_settings]
    exact (applySettings_eq g s o).2.2
  | ingest body actor => exact (ingest_eq g body actor o).2.2
  | submit r actor => exact (submit_eq g r actor o).2.2
  | handle body actor =>
    show (g.handle body actor o).calls = _
    rw [Gate.handle_calls]
    exact (ingest_eq g body actor o).2.2
  | setCap cap => rfl

theorem run_state :
    (op.run o g).state = ⟨(perform (op.errand g.cap) o g.manager).state, op.cap g.cap⟩ := by
  cases op with
  | manage r =>
    show Gate.mk (Callers.Call.run ⟨r, o⟩ g.manager).state g.cap = _
    rw [Callers.Call.run_eq]
    rfl
  | applySettings s =>
    show (g.applySettings s o).state = ⟨(perform (some (if s.reports then _ else _)) o _).state, _⟩
    rw [perform_settings]
    exact (applySettings_eq g s o).2.1
  | ingest body actor =>
    obtain ⟨hstate, hmanager, _⟩ := ingest_eq g body actor o
    show (g.ingest body actor o).state = ⟨(perform (bodyErrand g.cap body actor) o _).state, g.cap⟩
    rw [hstate, hmanager]
  | submit r actor =>
    obtain ⟨hstate, hmanager, _⟩ := submit_eq g r actor o
    show (g.submit r actor o).state = ⟨(perform (requestErrand r actor) o _).state, g.cap⟩
    rw [hstate, hmanager]
  | handle body actor =>
    obtain ⟨hstate, hmanager, _⟩ := ingest_eq g body actor o
    show (g.handle body actor o).state = ⟨(perform (bodyErrand g.cap body actor) o _).state, g.cap⟩
    rw [Gate.handle_state, hstate, hmanager]
  | setCap cap => rfl

end Operation

end Session

end TelemetryGate
