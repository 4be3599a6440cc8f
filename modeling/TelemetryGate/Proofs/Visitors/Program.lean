import TelemetryGate.Proofs.Callers.Path
import TelemetryGate.Proofs.Session.Program

/-!
# What an operation does, call by call

An operation of the gate makes one call of the manager after another, and loads or stores the cap
in between; what it does next depends on what it was answered.

* `Script`             calls of the manager and accesses to the cap, one after another;
* `Script.run`         a script that nobody interrupts;
* `script`             what each operation does;
* `script_run`         uninterrupted, that is the operation.
-/

namespace TelemetryGate

namespace Visitors

open Callers (Call Answer)
open Session (Operation)

/-! ### scripts -/

inductive Script where
  | done (reply : Session.Reply)
  | call (c : Call) (next : Answer → Script)
  | load (next : Nat → Script)
  | store (cap : Nat) (next : Script)

namespace Script

/-- A script that nobody interrupts. -/
def run : Script → Gate → Done Gate Session.Reply
  | done reply, g => { answer := reply, state := g }
  | call c next, g => (g.onManager c.run).andThen fun answer g => (next answer).run g
  | load next, g => (next g.cap).run g
  | store cap next, g => next.run { g with cap }

variable {body : Body} {actor : String} {r : TrackRequest} {o : Outcomes}
  {reply : Except Rejection String → Session.Reply}

/-- When the client was asked, a submission has passed. -/
def afterTrack (r : TrackRequest) (reply : Except Rejection String → Session.Reply) :
    Answer → Script :=
  fun _ => done (reply (.ok r.event))

/-- The client is asked to track unless reporting is off or something is wrong with the request. -/
def afterSecondLook (r : TrackRequest) (actor : String) (o : Outcomes)
    (reply : Except Rejection String → Session.Reply) : Answer → Script
  | .enabled true =>
    match r.fault? with
    | some reason => done (reply (.error reason))
    | none =>
      call ⟨.track r.event (Submission.ofRequest r actor).forwarded, o⟩ (afterTrack r reply)
  | _ => done (reply (.error .disabled))

/-- A request that is read already. -/
def submit (r : TrackRequest) (actor : String) (o : Outcomes)
    (reply : Except Rejection String → Session.Reply) : Script :=
  call ⟨.isEnabled, o⟩ (afterSecondLook r actor o reply)

/-- The body is read under the cap that was loaded. -/
def afterLoad (body : Body) (actor : String) (o : Outcomes)
    (reply : Except Rejection String → Session.Reply) (cap : Nat) : Script :=
  match Gate.readRequest cap body with
  | .error f => done (reply (.error (.malformed f)))
  | .ok r => submit r actor o reply

def afterFirstLook (body : Body) (actor : String) (o : Outcomes)
    (reply : Except Rejection String → Session.Reply) : Answer → Script
  | .enabled true => load (afterLoad body actor o reply)
  | _ => done (reply (.error .disabled))

def ingest (body : Body) (actor : String) (o : Outcomes)
    (reply : Except Rejection String → Session.Reply) : Script :=
  call ⟨.isEnabled, o⟩ (afterFirstLook body actor o reply)

/-- What is answered to new settings. -/
def applied : Answer → Script
  | .switched result => done (.applied result)
  | answer => done (.managed answer)

end Script

/-- What an operation does. The cap is loaded also to say that it stays. -/
def script (op : Operation) (o : Outcomes) : Script :=
  match op with
  | .manage r => .call ⟨r, o⟩ fun answer => .done (.managed answer)
  | .applySettings s =>
    let toggle := Script.call ⟨.setEnabled s.reports s.clientConfig, o⟩ Script.applied
    if s.bodyCap = 0 then .load fun _ => toggle else .store s.bodyCap toggle
  | .ingest body actor => .ingest body actor o .judged
  | .submit r actor => .submit r actor o .judged
  | .handle body actor => .ingest body actor o fun verdict => .answered (Gate.respond verdict)
  | .setCap cap => .store cap (.done .capSet)

/-! ### a script is its operation -/

/-- The same but for what is logged. -/
def SameDone (d d' : Done Gate Session.Reply) : Prop :=
  d.answer = d'.answer ∧ d.state = d'.state ∧ d.calls = d'.calls

section
variable {g : Gate} {client : LiveClient} {r : TrackRequest}
  {reply : Except Rejection String → Session.Reply}

theorem run_isEnabled (g : Gate) (o : Outcomes) (next : Answer → Script) :
    (Script.call ⟨.isEnabled, o⟩ next).run g = (next (.enabled g.manager.isEnabled)).run g :=
  rfl

theorem submit_run (g : Gate) (r : TrackRequest) (actor : String) (o : Outcomes)
    (reply : Except Rejection String → Session.Reply) :
    SameDone ((Script.submit r actor o reply).run g) ((g.submit r actor o).map reply) := by
  rw [Script.submit, run_isEnabled, Manager.isEnabled]
  cases hl : g.manager.live with
  | none =>
    rw [Gate.submit_of_off hl]
    exact ⟨rfl, rfl, rfl⟩
  | some client =>
    show SameDone ((Script.afterSecondLook r actor o reply (.enabled true)).run g) _
    unfold Script.afterSecondLook
    cases hf : r.fault? with
    | some reason =>
      rw [Gate.submit_of_fault hl hf]
      exact ⟨rfl, rfl, rfl⟩
    | none =>
      obtain ⟨hanswer, hstate, hcalls⟩ := Gate.submit_of_clear hl hf actor o
      refine ⟨?_, ?_, ?_⟩
      · show reply (.ok r.event) = reply (g.submit r actor o).answer
        rw [hanswer]
      · show Gate.mk (g.manager.track _ _ o).state g.cap = (g.submit r actor o).state
        rw [hstate, Manager.track_state]
      · show (g.manager.track _ _ o).calls ++ [] = (g.submit r actor o).calls
        rw [hcalls, List.append_nil, Manager.track_calls_of_live hl]

theorem ingest_run (g : Gate) (body : Body) (actor : String) (o : Outcomes)
    (reply : Except Rejection String → Session.Reply) :
    SameDone ((Script.ingest body actor o reply).run g) ((g.ingest body actor o).map reply) := by
  rw [Script.ingest, run_isEnabled, Manager.isEnabled]
  cases hl : g.manager.live with
  | none =>
    rw [Gate.ingest_of_off hl]
    exact ⟨rfl, rfl, rfl⟩
  | some client =>
    show SameDone ((Script.afterLoad body actor o reply g.cap).run g) _
    unfold Script.afterLoad
    cases hr : Gate.readRequest g.cap body with
    | error f =>
      rw [Gate.ingest_of_fault hl hr]
      exact ⟨rfl, rfl, rfl⟩
    | ok r =>
      rw [Gate.ingest_of_request hl hr]
      exact submit_run g r actor o reply

theorem toggle_run (g : Gate) (s : Settings) (o : Outcomes) :
    SameDone ((Script.call ⟨.setEnabled s.reports s.clientConfig, o⟩ Script.applied).run g)
      ((g.onManager (Manager.setEnabled s.reports s.clientConfig o)).map .applied) :=
  ⟨rfl, rfl, List.append_nil _⟩

end

/-- **A script that nobody interrupts is its operation.** -/
theorem script_run (op : Operation) (o : Outcomes) (g : Gate) :
    SameDone ((script op o).run g) (op.run o g) := by
  cases op with
  | manage r => exact ⟨rfl, rfl, List.append_nil _⟩
  | applySettings s =>
    show SameDone ((if s.bodyCap = 0 then _ else _ : Script).run g) ((g.applySettings s o).map _)
    unfold Gate.applySettings
    by_cases hc : s.bodyCap = 0
    · rw [if_pos hc, if_pos hc]
      exact toggle_run g s o
    · rw [if_neg hc, if_neg hc]
      exact toggle_run { g with cap := s.bodyCap } s o
  | ingest body actor => exact ingest_run g body actor o _
  | submit r actor => exact submit_run g r actor o _
  | handle body actor =>
    obtain ⟨hanswer, hstate, hcalls⟩ :=
      ingest_run g body actor o fun verdict => .answered (Gate.respond verdict)
    refine ⟨hanswer, ?_, ?_⟩
    · exact hstate.trans (Gate.handle_state ..).symm
    · exact hcalls.trans (Gate.handle_calls ..).symm
  | setCap cap => exact ⟨rfl, rfl, rfl⟩

end Visitors

end TelemetryGate
