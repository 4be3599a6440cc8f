import Mathlib.Data.List.Forall2
import TelemetryGate.Proofs.Session.Program

/-!
# Failing clients

Two sessions in which the same is asked and the same clients are made, and clients otherwise fail as
they like.

* `Alike`                   the same step, but for how tracking and closing turn out;
* `perform_alike`           an errand does the same in both;
* `Step.run_alike`          so does a step;
* `Manager.disable_fails`   switching off fails with the failure of the close;
* `Unmoved`, `unmoved`      only switching off tells the two sessions apart.
-/

namespace TelemetryGate

theorem Manager.disable_fails (m : Manager) (o : Outcomes) (e : LifecycleError) :
    (m.disable o).answer = .error e ↔
      ∃ n cause, ClientCall.close n (some cause) ∈ (m.disable o).calls ∧ e = .close cause := by
  cases hl : m.live with
  | none =>
    rw [disable_of_none hl]
    refine iff_of_false (fun h => nomatch h) ?_
    rintro ⟨n, cause, hmem, _⟩
    cases hmem
  | some client =>
    rw [disable_of_live hl]
    cases hc : o.close with
    | none =>
      refine iff_of_false (fun h => nomatch h) ?_
      rintro ⟨n, cause, hmem, _⟩
      cases List.mem_singleton.mp hmem
    | some cause =>
      constructor
      · intro h
        exact ⟨client.number, cause, List.mem_singleton_self _, (Except.error.inj h).symm⟩
      · rintro ⟨n, cause', hmem, rfl⟩
        cases List.mem_singleton.mp hmem
        rfl

namespace Session

open Callers (Errand Answer)

/-! ### operations -/

namespace Operation

/-- The settings that a client may be made from. -/
def config? : Operation → Option ClientConfig
  | manage (.enable config) => some config
  | manage (.setEnabled on config) => if on then some config else none
  | applySettings s => if s.reports then some s.clientConfig else none
  | _ => none

theorem requestErrand_ne_on (r : TrackRequest) (actor : String) (config : ClientConfig) :
    requestErrand r actor ≠ some (.on config) := by
  unfold requestErrand
  cases r.fault? with
  | none => exact (fun e => nomatch e)
  | some reason => exact (fun e => nomatch e)

theorem bodyErrand_ne_on (cap : Nat) (body : Body) (actor : String) (config : ClientConfig) :
    bodyErrand cap body actor ≠ some (.on config) := by
  unfold bodyErrand
  cases Gate.readRequest cap body with
  | ok r => exact requestErrand_ne_on r actor config
  | error f => exact (fun e => nomatch e)

theorem config?_of_errand {op : Operation} {cap : Nat} {config : ClientConfig}
    (h : op.errand cap = some (.on config)) : op.config? = some config := by
  cases op with
  | manage r =>
    cases r with
    | enable config' => cases h; rfl
    | setEnabled on config' =>
      cases on with
      | true => cases h; rfl
      | false => cases h
    | _ => cases h
  | applySettings s =>
    show (if s.reports then some s.clientConfig else none) = some config
    have h' : some (if s.reports then Errand.on s.clientConfig else .off) = some (.on config) := h
    cases hr : s.reports with
    | true => rw [hr] at h'; cases h'; rfl
    | false => rw [hr] at h'; cases h'
  | ingest body actor => exact absurd h (bodyErrand_ne_on cap body actor config)
  | submit r actor => exact absurd h (requestErrand_ne_on r actor config)
  | handle body actor => exact absurd h (bodyErrand_ne_on cap body actor config)
  | setCap cap' => cases h

end Operation

/-! ### the same but for faults -/

/-- The same is asked, and if a client is made from some settings, it is made in both. -/
def Alike (s s' : Step) : Prop :=
  s.operation = s'.operation ∧ ∀ config, s.operation.config? = some config →
    s.outcomes.create config = s'.outcomes.create config

theorem perform_alike {e : Option Errand} (o o' : Outcomes) (m : Manager)
    (h : ∀ config, e = some (.on config) → o.create config = o'.create config) :
    (perform e o m).state = (perform e o' m).state ∧
      (perform e o m).calls.map ClientCall.blind = (perform e o' m).calls.map ClientCall.blind := by
  cases e with
  | none => exact ⟨rfl, rfl⟩
  | some errand =>
    cases errand with
    | on config =>
      show (m.enable config o).state = (m.enable config o').state ∧
        (m.enable config o).calls.map _ = (m.enable config o').calls.map _
      unfold Manager.enable
      rw [h config rfl]
      exact ⟨rfl, rfl⟩
    | off =>
      show (m.disable o).state = (m.disable o').state ∧
        (m.disable o).calls.map _ = (m.disable o').calls.map _
      unfold Manager.disable
      cases m.live <;> exact ⟨rfl, rfl⟩
    | ask q =>
      cases q with
      | track event props =>
        show (m.track event props o).state = (m.track event props o').state ∧
          (m.track event props o).calls.map _ = (m.track event props o').calls.map _
        unfold Manager.track
        cases m.live <;> exact ⟨rfl, rfl⟩
      | isEnabled => exact ⟨rfl, rfl⟩
      | status => exact ⟨rfl, rfl⟩

section
variable {s s' : Step} {g : Gate}

theorem Step.run_alike (h : Alike s s') (g : Gate) :
    (s.run g).state = (s'.run g).state ∧
      (s.run g).calls.map ClientCall.blind = (s'.run g).calls.map ClientCall.blind := by
  obtain ⟨op, o⟩ := s
  obtain ⟨op', o'⟩ := s'
  obtain ⟨rfl, hcreate⟩ := h
  obtain ⟨hstate, hcalls⟩ := perform_alike o o' g.manager
    fun config he => hcreate config (Operation.config?_of_errand he)
  show (op.run o g).state = (op.run o' g).state ∧
    (op.run o g).calls.map _ = (op.run o' g).calls.map _
  rw [Operation.run_state, Operation.run_state, Operation.run_calls, Operation.run_calls, hstate]
  exact ⟨rfl, hcalls⟩

theorem submit_answer (g : Gate) (r : TrackRequest) (actor : String) (o o' : Outcomes) :
    (g.submit r actor o).answer = (g.submit r actor o').answer := by
  cases hl : g.manager.live with
  | none => rw [Gate.submit_of_off hl, Gate.submit_of_off hl]
  | some client =>
    cases hf : r.fault? with
    | some reason => rw [Gate.submit_of_fault hl hf, Gate.submit_of_fault hl hf]
    | none => rw [(Gate.submit_of_clear hl hf actor o).1, (Gate.submit_of_clear hl hf actor o').1]

theorem ingest_answer (g : Gate) (body : Body) (actor : String) (o o' : Outcomes) :
    (g.ingest body actor o).answer = (g.ingest body actor o').answer := by
  cases hl : g.manager.live with
  | none => rw [Gate.ingest_of_off hl, Gate.ingest_of_off hl]
  | some client =>
    cases hr : Gate.readRequest g.cap body with
    | error f => rw [Gate.ingest_of_fault hl hr, Gate.ingest_of_fault hl hr]
    | ok r =>
      rw [Gate.ingest_of_request hl hr, Gate.ingest_of_request hl hr]
      exact submit_answer g r actor o o'

theorem enable_answer (m : Manager) {config : ClientConfig} {o o' : Outcomes}
    (h : o.create config = o'.create config) :
    (m.enable config o).answer = (m.enable config o').answer := by
  unfold Manager.enable
  rw [h]

/-- Nothing is answered otherwise but to switching off. -/
theorem Step.reply_alike (h : Alike s s') (hoff : s.operation.switchesOff = false) (g : Gate) :
    (s.run g).answer = (s'.run g).answer := by
  obtain ⟨op, o⟩ := s
  obtain ⟨op', o'⟩ := s'
  obtain ⟨rfl, hcreate⟩ := h
  cases op with
  | manage r =>
    cases r with
    | enable config =>
      have he := enable_answer g.manager (hcreate config rfl)
      exact congrArg (Reply.managed ∘ Answer.switched) he
    | setEnabled on config =>
      cases on with
      | true =>
        have he := enable_answer g.manager (hcreate config rfl)
        exact congrArg (Reply.managed ∘ Answer.switched) he
      | false => cases hoff
    | disable => cases hoff
    | track event props => rfl
    | trackServerEvent event props => rfl
    | isEnabled => rfl
    | status => rfl
  | applySettings settings =>
    have hon : settings.reports = true := by
      have hnot : (!settings.reports) = false := hoff
      cases hr : settings.reports with
      | true => rfl
      | false => rw [hr] at hnot; cases hnot
    have hc := hcreate settings.clientConfig (by
      show (if settings.reports then some settings.clientConfig else none) = _
      rw [hon]
      rfl)
    show Reply.applied _ = Reply.applied _
    rw [(applySettings_eq g settings o).1, (applySettings_eq g settings o').1, hon]
    exact congrArg Reply.applied (enable_answer g.manager hc)
  | ingest body actor => exact congrArg Reply.judged (ingest_answer g body actor o o')
  | submit r actor => exact congrArg Reply.judged (submit_answer g r actor o o')
  | handle body actor =>
    show Reply.answered (g.handle body actor o).answer =
      Reply.answered (g.handle body actor o').answer
    rw [Gate.handle_answer, Gate.handle_answer, ingest_answer g body actor o o']
  | setCap cap => rfl

end

/-! ### switching off -/

/-- The result of an operation that may fail. -/
def Reply.result? : Reply → Option (Except LifecycleError Unit)
  | managed (.switched result) => some result
  | applied result => some result
  | _ => none

/-- It fails just if the client's close failed, and with that failure. -/
def Entry.FailsAsClosed (e : Entry) : Prop :=
  ∃ result, e.reply.result? = some result ∧
    ∀ reason, result = .error reason ↔
      ∃ n cause, ClientCall.close n (some cause) ∈ e.calls ∧ reason = .close cause

theorem Step.failsAsClosed {s : Step} (h : s.operation.switchesOff = true) (g : Gate)
    (earlier : List ClientCall) : (s.entry g earlier).FailsAsClosed := by
  obtain ⟨op, o⟩ := s
  refine ⟨(g.manager.disable o).answer, ?_⟩
  cases op with
  | manage r =>
    cases r with
    | disable => exact ⟨rfl, g.manager.disable_fails o⟩
    | setEnabled on config =>
      cases on with
      | true => cases h
      | false => exact ⟨rfl, g.manager.disable_fails o⟩
    | _ => cases h
  | applySettings settings =>
    have hoff : settings.reports = false := by
      have hnot : (!settings.reports) = true := h
      cases hr : settings.reports with
      | true => rw [hr] at hnot; cases hnot
      | false => rfl
    obtain ⟨hanswer, _, hcalls⟩ := applySettings_eq g settings o
    rw [hoff] at hanswer hcalls
    constructor
    · show some (g.applySettings settings o).answer = _
      rw [hanswer]
      rfl
    · intro reason
      show _ ↔ ∃ n cause, _ ∈ (g.applySettings settings o).calls ∧ _
      rw [hcalls]
      exact g.manager.disable_fails o reason
  | _ => cases h

theorem history_failsAsClosed {g : Gate} {earlier : List ClientCall} {steps : List Step} {e : Entry}
    (he : e ∈ history g earlier steps) (hoff : e.operation.switchesOff = true) :
    e.FailsAsClosed := by
  induction steps generalizing g earlier with
  | nil => cases he
  | cons s rest ih =>
    rcases List.mem_cons.mp he with rfl | he
    · exact s.failsAsClosed hoff g earlier
    · exact ih he

/-! ### two sessions -/

/-- The same was asked in the same state, and unless it was to switch off, answered alike. -/
def SameEntry (e e' : Entry) : Prop :=
  e.operation = e'.operation ∧ e.gate = e'.gate ∧
    (e.operation.switchesOff = false → e.reply = e'.reply)

theorem run_alike {steps steps' : List Step} (h : List.Forall₂ Alike steps steps') (g : Gate) :
    (run g steps).state = (run g steps').state ∧
      (run g steps).calls.map ClientCall.blind = (run g steps').calls.map ClientCall.blind := by
  induction h generalizing g with
  | nil => exact ⟨rfl, rfl⟩
  | @cons s s' rest rest' hs _ ih =>
    obtain ⟨hstate, hcalls⟩ := Step.run_alike hs g
    obtain ⟨hstate', hcalls'⟩ := ih (s.run g).state
    rw [hstate] at hstate' hcalls'
    constructor
    · show (run (s.run g).state rest).state = (run (s'.run g).state rest').state
      rw [hstate]
      exact hstate'
    · show ((s.run g).calls ++ (run (s.run g).state rest).calls).map _ =
        ((s'.run g).calls ++ (run (s'.run g).state rest').calls).map _
      rw [List.map_append, List.map_append, hcalls, hstate, hcalls']

theorem history_alike {steps steps' : List Step} (h : List.Forall₂ Alike steps steps') (g : Gate)
    (earlier earlier' : List ClientCall) :
    List.Forall₂ SameEntry (history g earlier steps) (history g earlier' steps') := by
  induction h generalizing g earlier earlier' with
  | nil => exact .nil
  | @cons s s' rest rest' hs _ ih =>
    refine .cons ⟨hs.1, rfl, fun hoff => Step.reply_alike hs hoff g⟩ ?_
    rw [(Step.run_alike hs g).1]
    exact ih _ _ _

/-- Two sessions that only switching off tells apart. -/
structure Unmoved (g : Gate) (steps steps' : List Step) : Prop where
  /-- after any number of steps reporting is on in both or in neither, with one status, one cap and
  as many clients made -/
  state : ∀ n, (run g (steps.take n)).state = (run g (steps'.take n)).state
  made : ∀ n, Calls.made (run g (steps.take n)).calls = Calls.made (run g (steps'.take n)).calls
  closed : ∀ n,
    Calls.closed (run g (steps.take n)).calls = Calls.closed (run g (steps'.take n)).calls
  handed : ∀ n,
    Calls.handed (run g (steps.take n)).calls = Calls.handed (run g (steps'.take n)).calls
  replies : List.Forall₂ SameEntry (history g [] steps) (history g [] steps')
  off : ∀ e ∈ history g [] steps ++ history g [] steps',
    e.operation.switchesOff = true → e.FailsAsClosed

/-- **However clients fail to track and to close, nothing else comes of it than the failure of
whoever switched off.** -/
theorem unmoved {steps steps' : List Step} (h : List.Forall₂ Alike steps steps') (g : Gate) :
    Unmoved g steps steps' := by
  have hblind (n : Nat) := (run_alike (List.forall₂_take n h) g).2
  constructor
  · exact fun n => (run_alike (List.forall₂_take n h) g).1
  · exact fun n => Calls.flatMap_of_map ClientCall.made_blind (hblind n)
  · exact fun n => Calls.flatMap_of_map ClientCall.closed_blind (hblind n)
  · exact fun n => Calls.flatMap_of_map ClientCall.handed_blind (hblind n)
  · exact history_alike h g [] []
  · intro e he hoff
    rcases List.mem_append.mp he with he | he
    · exact history_failsAsClosed he hoff
    · exact history_failsAsClosed he hoff

/-- A client is made, an event is tracked, and the client is closed. -/
def onAndOff (track close : Option ReportError) : List Step :=
  [⟨.manage (.enable {}), ⟨fun _ => none, track, close⟩⟩,
    ⟨.manage (.track "user_raise_hand" []), ⟨fun _ => none, track, close⟩⟩,
    ⟨.manage .disable, ⟨fun _ => none, track, close⟩⟩]

theorem alike_onAndOff (track close track' close' : Option ReportError) :
    List.Forall₂ Alike (onAndOff track close) (onAndOff track' close') :=
  .cons ⟨rfl, fun _ _ => rfl⟩ (.cons ⟨rfl, fun _ _ => rfl⟩ (.cons ⟨rfl, fun _ _ => rfl⟩ .nil))

theorem unmoved_onAndOff :
    List.Forall₂ Alike (onAndOff none none) (onAndOff (some .queueFull) (some .closed)) ∧
      (run (fresh 25) (onAndOff none none)).answer =
        [.managed (.switched (.ok ())), .managed .tracked, .managed (.switched (.ok ()))] ∧
      (run (fresh 25) (onAndOff (some .queueFull) (some .closed))).answer =
        [.managed (.switched (.ok ())), .managed .tracked,
          .managed (.switched (.error (.close .closed)))] ∧
      Unmoved (fresh 25) (onAndOff none none) (onAndOff (some .queueFull) (some .closed)) :=
  ⟨alike_onAndOff .., rfl, rfl, unmoved (alike_onAndOff ..) (fresh 25)⟩

end Session

end TelemetryGate
