import TelemetryGate.Proofs.Session.Ledger

/-!
# What clients hear in a session

A client hears what was tracked while reporting was on and what was accepted, in that order, each
once and when it was asked, and nothing else.

* `Operation.event?`   the event that an operation is about, if it is about one;
* `Entry.due`          what was asked is to reach a client;
* `Entry.owed`         what the client that was made last is to hear of it;
* `Step.due_cases`     a step hands over what is owed;
* `delivered`          so does a session, and in the end every client was closed once.
-/

namespace TelemetryGate.Session

open Callers (Answer)

/-! ### what is owed -/

/-- The event that an operation is about, and the properties that go with it. -/
def Operation.event? (cap : Nat) : Operation → Option (String × Properties)
  | manage (.track event props) => some (event, props)
  | manage (.trackServerEvent event props) => some (event.name, props)
  | ingest body actor | handle body actor =>
    (Gate.readRequest cap body).toOption.map (outgoing actor)
  | submit r actor => some (outgoing actor r)
  | _ => none

/-- What was asked is to reach a client: a track while reporting is on, or a submission that was
accepted. -/
def Entry.due (e : Entry) : Bool :=
  match e.operation, e.reply with
  | .manage (.track _ _), _ | .manage (.trackServerEvent _ _), _ => e.gate.manager.isEnabled
  | _, .judged verdict => verdict.isOk
  | _, .answered r => r.isSuccess
  | _, _ => false

/-- What the client that was made last is to hear. -/
def Entry.owed (e : Entry) : List Handed :=
  if e.due then
    (e.operation.event? e.gate.cap).toList.map fun (event, props) =>
      ⟨Calls.latest e.earlier, event, props⟩
  else []

/-! ### one step -/

theorem request_cases (g : Gate) (r : TrackRequest) (actor : String) (o : Outcomes) :
    ((g.submit r actor o).answer.isOk = false ∧
      handedBy (requestErrand r actor) g.manager.live = []) ∨
    ∃ client, g.manager.live = some client ∧ (g.submit r actor o).answer.isOk = true ∧
      handedBy (requestErrand r actor) g.manager.live =
        [⟨client.number, (outgoing actor r).1, (outgoing actor r).2⟩] := by
  cases hl : g.manager.live with
  | none =>
    left
    rw [Gate.submit_of_off hl]
    exact ⟨rfl, handedBy_off _⟩
  | some client =>
    cases hf : r.fault? with
    | some reason =>
      left
      rw [Gate.submit_of_fault hl hf, requestErrand, hf]
      exact ⟨rfl, rfl⟩
    | none =>
      right
      rw [(Gate.submit_of_clear hl hf actor o).1, requestErrand, hf]
      exact ⟨client, rfl, rfl, rfl⟩

theorem body_cases (g : Gate) (body : Body) (actor : String) (o : Outcomes) :
    ((g.ingest body actor o).answer.isOk = false ∧
      handedBy (bodyErrand g.cap body actor) g.manager.live = []) ∨
    ∃ client r, g.manager.live = some client ∧ Gate.readRequest g.cap body = .ok r ∧
      (g.ingest body actor o).answer.isOk = true ∧
      handedBy (bodyErrand g.cap body actor) g.manager.live =
        [⟨client.number, (outgoing actor r).1, (outgoing actor r).2⟩] := by
  cases hl : g.manager.live with
  | none =>
    left
    rw [Gate.ingest_of_off hl]
    exact ⟨rfl, handedBy_off _⟩
  | some client =>
    cases hr : Gate.readRequest g.cap body with
    | error f =>
      left
      rw [Gate.ingest_of_fault hl hr, bodyErrand, hr]
      exact ⟨rfl, rfl⟩
    | ok r =>
      rw [Gate.ingest_of_request hl hr, bodyErrand, hr]
      rcases request_cases g r actor o with ⟨hno, hnone⟩ | ⟨client', hl', hok, hone⟩
      · rw [hl] at hnone
        exact .inl ⟨hno, hnone⟩
      · rw [hl] at hl' hone
        obtain rfl := Option.some.inj hl'
        exact .inr ⟨client, r, rfl, rfl, hok, hone⟩

theorem outgoing_of_ok {cap : Nat} {body : Body} {r : TrackRequest}
    (h : Gate.readRequest cap body = .ok r) (actor : String) :
    (Gate.readRequest cap body).toOption.map (outgoing actor) = some (outgoing actor r) := by
  rw [h]
  rfl

theorem isSuccess_respond (verdict : Except Rejection String) :
    (Gate.respond verdict).isSuccess = verdict.isOk := by
  cases verdict <;> rfl

/-- What is due is handed to the live client, and nothing is if nothing is due. -/
theorem Step.due_cases (s : Step) (g : Gate) (earlier : List ClientCall) :
    ((s.entry g earlier).due = false ∧
      handedBy (s.operation.errand g.cap) g.manager.live = []) ∨
    ∃ client event props, g.manager.live = some client ∧ (s.entry g earlier).due = true ∧
      s.operation.event? g.cap = some (event, props) ∧
      handedBy (s.operation.errand g.cap) g.manager.live = [⟨client.number, event, props⟩] := by
  obtain ⟨op, o⟩ := s
  cases op with
  | manage r =>
    -- a track is due if there is a client, and no other request is
    cases r with
    | track event props =>
      cases hl : g.manager.live with
      | none => exact .inl ⟨by show g.manager.live.isSome = false; rw [hl]; rfl, rfl⟩
      | some client =>
        exact .inr ⟨client, event, props, rfl, by show g.manager.live.isSome = true; rw [hl]; rfl,
          rfl, rfl⟩
    | trackServerEvent event props =>
      cases hl : g.manager.live with
      | none => exact .inl ⟨by show g.manager.live.isSome = false; rw [hl]; rfl, rfl⟩
      | some client =>
        exact .inr ⟨client, event.name, props, rfl,
          by show g.manager.live.isSome = true; rw [hl]; rfl, rfl, rfl⟩
    | setEnabled on config => cases on <;> exact .inl ⟨rfl, rfl⟩
    | enable config => exact .inl ⟨rfl, rfl⟩
    | disable => exact .inl ⟨rfl, rfl⟩
    | isEnabled => exact .inl ⟨rfl, rfl⟩
    | status => exact .inl ⟨rfl, rfl⟩
  | applySettings settings =>
    left
    refine ⟨rfl, ?_⟩
    show handedBy (some (if settings.reports then _ else _)) _ = []
    cases settings.reports <;> rfl
  | ingest body actor =>
    rcases body_cases g body actor o with h | ⟨client, r, hl, hr, hok, hone⟩
    · exact .inl h
    · exact .inr ⟨client, _, _, hl, hok, outgoing_of_ok hr actor, hone⟩
  | submit r actor =>
    rcases request_cases g r actor o with h | ⟨client, hl, hok, hone⟩
    · exact .inl h
    · exact .inr ⟨client, _, _, hl, hok, rfl, hone⟩
  | handle body actor =>
    have hdue : (g.handle body actor o).answer.isSuccess = (g.ingest body actor o).answer.isOk := by
      rw [Gate.handle_answer, isSuccess_respond]
    rcases body_cases g body actor o with ⟨hno, hnone⟩ | ⟨client, r, hl, hr, hok, hone⟩
    · exact .inl ⟨hdue.trans hno, hnone⟩
    · exact .inr ⟨client, _, _, hl, hdue.trans hok, outgoing_of_ok hr actor, hone⟩
  | setCap cap => exact .inl ⟨rfl, rfl⟩

/-! ### a session -/

section
variable {g : Gate} {earlier : List ClientCall}

theorem Entry.owed_of_not_due {e : Entry} (h : e.due = false) : e.owed = [] := by
  rw [owed, h]
  rfl

theorem Entry.owed_of_due {e : Entry} {event : String} {props : Properties} (h : e.due = true)
    (he : e.operation.event? e.gate.cap = some (event, props)) :
    e.owed = [⟨Calls.latest e.earlier, event, props⟩] := by
  rw [owed, h, he]
  rfl

/-- A step hands over what is owed, to the client that was made last. -/
theorem Ledger.handed_step (h : Ledger g earlier) (s : Step) :
    Calls.handed (s.run g).calls = (s.entry g earlier).owed := by
  rw [(s.effect g).handed_eq]
  rcases s.due_cases g earlier with ⟨hno, hnone⟩ | ⟨client, event, props, hl, hdue, he, hone⟩
  · rw [hnone, Entry.owed_of_not_due hno]
  · rw [hone, Entry.owed_of_due hdue he, ← h.latest hl]
    rfl

theorem Ledger.handed_run (h : Ledger g earlier) (steps : List Step) :
    Calls.handed (Session.run g steps).calls =
      (Session.history g earlier steps).flatMap Entry.owed := by
  induction steps generalizing g earlier with
  | nil => rfl
  | cons s rest ih =>
    show Calls.handed ((s.run g).calls ++ (Session.run (s.run g).state rest).calls) = _
    rw [Calls.handed_append, h.handed_step, ih (h.step s), Session.history, List.flatMap_cons]

theorem map_operation (g : Gate) (earlier : List ClientCall) (steps : List Step) :
    (history g earlier steps).map Entry.operation = steps.map Step.operation := by
  induction steps generalizing g earlier with
  | nil => rfl
  | cons s rest ih =>
    rw [history, List.map_cons, List.map_cons, ih]
    rfl

/-- The end of a session closes the client that is left, and hands over nothing. -/
theorem Ledger.drop (h : Ledger g earlier) (o : Outcomes) :
    Calls.handed (g.manager.shutDown o).calls = [] ∧
      Calls.made (g.manager.shutDown o).calls = [] ∧
      Calls.closed (earlier ++ (g.manager.shutDown o).calls) = Calls.made earlier := by
  rw [← h.closed, Calls.closed_append]
  unfold Manager.shutDown
  cases g.manager.live with
  | none => exact ⟨rfl, rfl, rfl⟩
  | some client => exact ⟨rfl, rfl, rfl⟩

end

/-- What clients hear of what was asked and answered. -/
structure Delivered (entries : List Entry) (calls : List ClientCall) : Prop where
  /-- all that is owed, in order, and nothing else -/
  handed : Calls.handed calls = entries.flatMap Entry.owed
  /-- nothing is kept for later -/
  atOnce : ∀ e ∈ entries, Calls.handed e.calls = e.owed
  /-- what is due is one event, of a client that was made last and not closed -/
  one : ∀ e ∈ entries, e.due = true → ∃ event props,
    e.operation.event? e.gate.cap = some (event, props) ∧
      e.owed = [⟨Calls.latest e.earlier, event, props⟩] ∧
      Calls.latest e.earlier ∈ Calls.made e.earlier ∧
      Calls.latest e.earlier ∉ Calls.closed e.earlier
  /-- nothing is owed for what was asked while reporting was off -/
  off : ∀ e ∈ entries, e.gate.manager.isEnabled = false → e.owed = []

theorem Ledger.delivers {g : Gate} {earlier : List ClientCall} (h : Ledger g earlier)
    (steps : List Step) :
    Delivered (Session.history g earlier steps) (Session.run g steps).calls where
  handed := h.handed_run steps
  atOnce e he := by
    obtain ⟨hledger, s, _, hentry⟩ := h.history he
    rw [hentry]
    exact hledger.handed_step s
  one e he hdue := by
    obtain ⟨hledger, s, _, hentry⟩ := h.history he
    rcases s.due_cases e.gate e.earlier with ⟨hno, _⟩ | ⟨client, event, props, hl, _, hevent, _⟩
    · rw [← hentry, hdue] at hno
      cases hno
    · have hop : e.operation.event? e.gate.cap = some (event, props) := by
        rw [hentry]
        exact hevent
      rw [Entry.owed_of_due hdue hop, hledger.latest hl]
      exact ⟨event, props, hop, rfl, hledger.unclosed hl⟩
  off e he hoff := by
    obtain ⟨hledger, s, _, hentry⟩ := h.history he
    rcases s.due_cases e.gate e.earlier with ⟨hno, _⟩ | ⟨client, event, props, hl, _, _, _⟩
    · rw [← hentry] at hno
      exact Entry.owed_of_not_due hno
    · rw [Manager.isEnabled, hl] at hoff
      cases hoff

/-- **In every session, clients hear just what was tracked while reporting was on and what was
accepted, each once and in order, the client that was made last hearing it; when the session ends,
every client has been closed, and none twice.** -/
theorem delivered (cap : Nat) (steps : List Step) :
    (history (fresh cap) [] steps).map Entry.operation = steps.map Step.operation ∧
      (history (fresh cap) [] steps).map Entry.reply = (run (fresh cap) steps).answer ∧
      Delivered (history (fresh cap) [] steps) (run (fresh cap) steps).calls ∧
      ∀ o : Outcomes,
        Delivered (history (fresh cap) [] steps) (runAndDrop (fresh cap) steps o).calls ∧
        Calls.made (runAndDrop (fresh cap) steps o).calls =
          Calls.made (run (fresh cap) steps).calls ∧
        (Calls.made (runAndDrop (fresh cap) steps o).calls).Nodup ∧
        Calls.closed (runAndDrop (fresh cap) steps o).calls =
          Calls.made (runAndDrop (fresh cap) steps o).calls := by
  have hd := (Ledger.fresh cap).delivers steps
  have hend : Ledger (run (fresh cap) steps).state ([] ++ (run (fresh cap) steps).calls) :=
    (Ledger.fresh cap).run steps
  rw [List.nil_append] at hend
  refine ⟨map_operation .., (run_answer ..).symm, hd, fun o => ?_⟩
  obtain ⟨hhanded, hmade, hclosed⟩ := hend.drop o
  have hcalls : (runAndDrop (fresh cap) steps o).calls =
      (run (fresh cap) steps).calls ++ ((run (fresh cap) steps).state.manager.shutDown o).calls :=
    rfl
  rw [hcalls, hclosed, Calls.made_append, hmade, List.append_nil]
  refine ⟨{ hd with handed := ?_ }, rfl, hend.nodup, rfl⟩
  rw [Calls.handed_append, hhanded, List.append_nil]
  exact hd.handed

end TelemetryGate.Session
