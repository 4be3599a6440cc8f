import TelemetryGate.Host
import TelemetryGate.Proofs.Body
import TelemetryGate.Proofs.Manager

/-!
# The checks of the gate

What the gate does at each of its checks, when it fails and when it does not.

* `readRequest_of_*`  the body is too long, blank, holds no request or holds one;
* `ingest_of_*`        reporting is off, the body is faulty, the body holds a request;
* `handle_*`           answering adds nothing to what comes of it;
* `submit_of_*`        the event or the kind of client is not known, or both are.
-/

namespace TelemetryGate

/-! ### blanks -/

theorem Json.isEmpty_skipBlanks {bytes : List UInt8} :
    (Json.skipBlanks bytes).isEmpty = true ↔ ∀ b ∈ bytes, Json.isBlank b = true := by
  induction bytes with
  | nil => exact iff_of_true rfl fun b hb => absurd hb List.not_mem_nil
  | cons b rest ih =>
    rw [skipBlanks, List.forall_mem_cons]
    by_cases hb : isBlank b = true
    · rw [if_pos hb, ih]
      exact (and_iff_right hb).symm
    · rw [if_neg hb]
      exact iff_of_false Bool.false_ne_true fun h => hb h.1

namespace Gate

/-! ### the body -/

section
variable {cap : Nat} {body : Body} {bytes : List UInt8}

theorem take_long (hfit : bytes.length ≤ Word.most ∨ cap < Word.most) (h : cap < bytes.length) :
    cap < (bytes.take (wanted cap)).length := by
  rw [List.length_take, wanted]
  omega

theorem take_short (hfit : bytes.length ≤ Word.most ∨ cap < Word.most) (h : bytes.length ≤ cap) :
    bytes.take (wanted cap) = bytes := by
  refine List.take_of_length_le ?_
  rw [wanted]
  omega

/-- A cap of all 64 bits has no byte more; nothing in memory is longer. -/
theorem readRequest_of_long (h : body.Holds bytes)
    (hfit : bytes.length ≤ Word.most ∨ cap < Word.most) (hlen : cap < bytes.length) :
    readRequest cap body = .error .tooLarge := by
  rw [readRequest, reading, h.take_eq]
  exact if_pos (take_long hfit hlen)

variable (h : body.Holds bytes) (hfit : bytes.length ≤ Word.most ∨ cap < Word.most)
  (hlen : bytes.length ≤ cap)
include h hfit hlen

theorem readRequest_of_blank (hb : ∀ b ∈ bytes, Json.isBlank b = true) :
    readRequest cap body = .error .empty := by
  rw [readRequest, reading, h.take_eq, take_short hfit hlen]
  show (if cap < bytes.length then _ else _) = _
  rw [if_neg (Nat.not_lt.mpr hlen)]
  show (if (Json.skipBlanks bytes).isEmpty then _ else _) = _
  rw [if_pos (Json.isEmpty_skipBlanks.mpr hb)]

theorem readRequest_of_fault (hb : ¬ ∀ b ∈ bytes, Json.isBlank b = true) {f : Json.Fault}
    (hr : TrackRequest.reader bytes = .error f) :
    readRequest cap body = .error (.undecodable (f.message bytes)) := by
  rw [readRequest, reading, h.take_eq, take_short hfit hlen]
  show (if cap < bytes.length then _ else _) = _
  rw [if_neg (Nat.not_lt.mpr hlen)]
  show (if (Json.skipBlanks bytes).isEmpty then _ else _) = _
  rw [if_neg (mt Json.isEmpty_skipBlanks.mp hb)]
  simp only [hr]

theorem readRequest_of_ok (hb : ¬ ∀ b ∈ bytes, Json.isBlank b = true)
    {r : Read TrackRequest bytes} (hr : TrackRequest.reader bytes = .ok r) :
    readRequest cap body = .ok r.value := by
  rw [readRequest, reading, h.take_eq, take_short hfit hlen]
  show (if cap < bytes.length then _ else _) = _
  rw [if_neg (Nat.not_lt.mpr hlen)]
  show (if (Json.skipBlanks bytes).isEmpty then _ else _) = _
  rw [if_neg (mt Json.isEmpty_skipBlanks.mp hb)]
  simp only [hr]

end

/-! ### the other checks -/

section
variable {g : Gate} {body : Body} {client : LiveClient} {r : TrackRequest}

theorem handle_answer (g : Gate) (body : Body) (actor : String) (o : Outcomes) :
    (g.handle body actor o).answer = respond (g.ingest body actor o).answer := rfl

theorem handle_state (g : Gate) (body : Body) (actor : String) (o : Outcomes) :
    (g.handle body actor o).state = (g.ingest body actor o).state := rfl

theorem handle_calls (g : Gate) (body : Body) (actor : String) (o : Outcomes) :
    (g.handle body actor o).calls = (g.ingest body actor o).calls :=
  List.append_nil _

theorem isEnabled_of_live (h : g.manager.live = some client) : g.manager.isEnabled = true := by
  rw [Manager.isEnabled, h]
  rfl

theorem ingest_of_off (h : g.manager.live = none) (actor : String) (o : Outcomes) :
    g.ingest body actor o = { answer := .error .disabled, state := g } := by
  rw [ingest, ingestion, Manager.isEnabled, h]
  rfl

theorem ingest_of_fault {f : BodyFault} (h : g.manager.live = some client)
    (hr : readRequest g.cap body = .error f) (actor : String) (o : Outcomes) :
    g.ingest body actor o = { answer := .error (.malformed f), state := g } := by
  rw [ingest_eq, isEnabled_of_live h, hr]
  rfl

theorem ingest_of_request (h : g.manager.live = some client)
    (hr : readRequest g.cap body = .ok r) (actor : String) (o : Outcomes) :
    g.ingest body actor o = g.submit r actor o := by
  rw [ingest_eq, isEnabled_of_live h, hr]
  rfl

theorem submit_of_unknownEvent (h : g.manager.live = some client)
    (he : r.event ∉ Registry.clientEvents) (actor : String) (o : Outcomes) :
    g.submit r actor o = { answer := .error .unknownEvent, state := g } := by
  rw [submit, isEnabled_of_live h, Registry.isClientEvent, List.contains_eq_mem,
    decide_eq_false he]
  rfl

theorem submit_of_unknownClientType (h : g.manager.live = some client)
    (he : r.event ∈ Registry.clientEvents) (hc : r.clientType ∉ Registry.clientTypes)
    (actor : String) (o : Outcomes) :
    g.submit r actor o = { answer := .error .unknownClientType, state := g } := by
  rw [submit, isEnabled_of_live h, Registry.isClientEvent, List.contains_eq_mem,
    decide_eq_true he, Registry.isClientType, List.contains_eq_mem, decide_eq_false hc]
  rfl

/-- A request that passes is handed to the live client, once, whatever comes of it. -/
theorem submit_of_known (h : g.manager.live = some client)
    (he : r.event ∈ Registry.clientEvents) (hc : r.clientType ∈ Registry.clientTypes)
    (actor : String) (o : Outcomes) :
    (g.submit r actor o).answer = .ok r.event ∧ (g.submit r actor o).state = g ∧
      (g.submit r actor o).calls =
        [.track client.number r.event (Submission.ofRequest r actor).forwarded o.track] := by
  rw [submit, isEnabled_of_live h, Registry.isClientEvent, List.contains_eq_mem,
    decide_eq_true he, Registry.isClientType, List.contains_eq_mem, decide_eq_true hc]
  refine ⟨rfl, ?_, ?_⟩
  · show { g with manager := (g.manager.track _ _ o).state } = g
    rw [Manager.track_state]
  · exact Manager.track_calls_of_live h

end

end Gate

end TelemetryGate
