import TelemetryGate.Proofs.Session.Faults
import TelemetryGate.Proofs.Session.Log

/-!
# Steps of which nothing comes

Reporting switched on in vain or once more, switched off while it is off, an event tracked while it
is off, a submission refused: without such steps a session goes on as it does with them.

* `Entry.idle`       nothing is to come of what was asked;
* `Step.run_idle`    nothing does: the gate stays as it is, and no client is asked anything;
* `pick`             the items at the places that are kept;
* `Agree`            the same step, but for how tracking turns out;
* `GoesOn`, `goesOn` a session without idle steps.
-/

namespace TelemetryGate

/-! ### nothing comes of it -/

theorem Manager.enable_idle {m : Manager} {config : ClientConfig} {o : Outcomes}
    (h : (!(m.enable config o).answer.isOk || m.isEnabled) = true) :
    (m.enable config o).state = m ∧ (m.enable config o).calls = [] := by
  cases hl : m.live with
  | some client =>
    rw [enable_of_live hl]
    exact ⟨rfl, rfl⟩
  | none =>
    cases hc : o.create config with
    | some reason =>
      rw [enable_of_refused hl hc]
      exact ⟨rfl, rfl⟩
    | none =>
      rw [enable_of_made hl hc, isEnabled, hl] at h
      cases h

theorem Manager.live_of_not_isEnabled {m : Manager} (h : (!m.isEnabled) = true) :
    m.live = none := by
  rw [isEnabled] at h
  cases hl : m.live with
  | none => rfl
  | some client => rw [hl] at h; cases h

theorem Manager.disable_idle {m : Manager} (h : (!m.isEnabled) = true) (o : Outcomes) :
    (m.disable o).state = m ∧ (m.disable o).calls = [] := by
  rw [disable_of_none (live_of_not_isEnabled h)]
  exact ⟨rfl, rfl⟩

theorem Manager.track_idle {m : Manager} (h : (!m.isEnabled) = true) (event : String)
    (props : Properties) (o : Outcomes) :
    (m.track event props o).state = m ∧ (m.track event props o).calls = [] := by
  rw [track_of_none (live_of_not_isEnabled h)]
  exact ⟨rfl, rfl⟩

namespace Gate
variable {g : Gate} {r : TrackRequest} {body : Body} {actor : String} {o : Outcomes}

theorem submit_idle (h : (!(g.submit r actor o).answer.isOk) = true) :
    (g.submit r actor o).state = g ∧ (g.submit r actor o).calls = [] := by
  cases hl : g.manager.live with
  | none =>
    rw [submit_of_off hl]
    exact ⟨rfl, rfl⟩
  | some client =>
    cases hf : r.fault? with
    | some reason =>
      rw [submit_of_fault hl hf]
      exact ⟨rfl, rfl⟩
    | none =>
      rw [(submit_of_clear hl hf actor o).1] at h
      cases h

theorem ingest_idle (h : (!(g.ingest body actor o).answer.isOk) = true) :
    (g.ingest body actor o).state = g ∧ (g.ingest body actor o).calls = [] := by
  cases hl : g.manager.live with
  | none =>
    rw [ingest_of_off hl]
    exact ⟨rfl, rfl⟩
  | some client =>
    cases hr : readRequest g.cap body with
    | error f =>
      rw [ingest_of_fault hl hr]
      exact ⟨rfl, rfl⟩
    | ok r =>
      rw [ingest_of_request hl hr] at h ⊢
      exact submit_idle h

end Gate

namespace Session

open Callers (Answer)

/-- Nothing is to come of it: switching on failed or reporting was on; reporting was off already
when it was switched off or something was tracked; a submission was refused. -/
def Entry.idle (e : Entry) : Bool :=
  match e.operation, e.reply with
  | .manage (.enable _), .managed (.switched result)
  | .manage (.setEnabled true _), .managed (.switched result) =>
    !result.isOk || e.gate.manager.isEnabled
  | .manage .disable, _ | .manage (.setEnabled false _), _
  | .manage (.track _ _), _ | .manage (.trackServerEvent _ _), _ => !e.gate.manager.isEnabled
  | .ingest _ _, .judged verdict | .submit _ _, .judged verdict => !verdict.isOk
  | .handle _ _, .answered r => !r.isSuccess
  | _, _ => false

section
variable {s : Step} {g : Gate} {earlier : List ClientCall}

theorem Step.manage_idle {r : Callers.Request} {o : Outcomes}
    (h : (Step.entry ⟨.manage r, o⟩ g earlier).idle = true) :
    (Callers.Call.run ⟨r, o⟩ g.manager).state = g.manager ∧
      (Callers.Call.run ⟨r, o⟩ g.manager).calls = [] := by
  cases r with
  | enable config => exact Manager.enable_idle h
  | setEnabled on config =>
    cases on with
    | true => exact Manager.enable_idle h
    | false => exact Manager.disable_idle h o
  | disable => exact Manager.disable_idle h o
  | track event props => exact Manager.track_idle h event props o
  | trackServerEvent event props => exact Manager.track_idle h event.name props o
  | isEnabled => cases h
  | status => cases h

/-- An idle step leaves the gate as it is and asks nothing of clients. -/
theorem Step.run_idle (h : (s.entry g earlier).idle = true) :
    (s.run g).state = g ∧ (s.run g).calls = [] := by
  obtain ⟨op, o⟩ := s
  cases op with
  | manage r =>
    obtain ⟨hstate, hcalls⟩ := manage_idle h
    refine ⟨?_, hcalls⟩
    show { g with manager := (Callers.Call.run ⟨r, o⟩ g.manager).state } = g
    rw [hstate]
  | applySettings settings => cases h
  | ingest body actor => exact Gate.ingest_idle h
  | submit r actor => exact Gate.submit_idle h
  | handle body actor =>
    have hno : (!(g.ingest body actor o).answer.isOk) = true := by
      rw [← isSuccess_respond, ← Gate.handle_answer]
      exact h
    show (g.handle body actor o).state = g ∧ (g.handle body actor o).calls = []
    rw [Gate.handle_state, Gate.handle_calls]
    exact Gate.ingest_idle hno
  | setCap cap => cases h

end

/-! ### steps that stay -/

/-- The items at the places that are kept, the first of them being the `n`th. -/
def pick {α : Type} (keep : Nat → Bool) (n : Nat) : List α → List α
  | [] => []
  | a :: rest => if keep n then a :: pick keep (n + 1) rest else pick keep (n + 1) rest

section
variable {α : Type} {keep : Nat → Bool} {n : Nat}

theorem pick_kept (h : keep n = true) (a : α) (rest : List α) :
    pick keep n (a :: rest) = a :: pick keep (n + 1) rest := if_pos h

theorem pick_left (h : keep n = false) (a : α) (rest : List α) :
    pick keep n (a :: rest) = pick keep (n + 1) rest := if_neg (by rw [h]; decide)

end

/-- The same is asked; a client that is made in one is made in the other, and one that is closed is
closed alike. -/
def Agree (s s' : Step) : Prop :=
  Alike s s' ∧ (s.operation.switchesOff = true → s.outcomes.close = s'.outcomes.close)

theorem disable_answer (m : Manager) {o o' : Outcomes} (h : o.close = o'.close) :
    (m.disable o).answer = (m.disable o').answer := by
  unfold Manager.disable
  rw [h]

/-- Steps that agree are answered alike. -/
theorem Step.reply_agree {s s' : Step} (h : Agree s s') (g : Gate) :
    (s.run g).answer = (s'.run g).answer := by
  obtain ⟨halike, hclose⟩ := h
  cases hoff : s.operation.switchesOff with
  | false => exact Step.reply_alike halike hoff g
  | true =>
    have hc := hclose hoff
    obtain ⟨op, o⟩ := s
    obtain ⟨op', o'⟩ := s'
    obtain ⟨rfl, _⟩ := halike
    have hd := disable_answer g.manager hc
    cases op with
    | manage r =>
      cases r with
      | disable => exact congrArg (Reply.managed ∘ Answer.switched) hd
      | setEnabled on config =>
        cases on with
        | true => cases hoff
        | false => exact congrArg (Reply.managed ∘ Answer.switched) hd
      | _ => cases hoff
    | applySettings settings =>
      have hno : settings.reports = false := by
        have hnot : (!settings.reports) = true := hoff
        rwa [Bool.not_eq_true'] at hnot
      show Reply.applied _ = Reply.applied _
      rw [(applySettings_eq g settings o).1, (applySettings_eq g settings o').1, hno]
      exact congrArg Reply.applied hd
    | _ => cases hoff

/-! ### a session without them -/

/-- A session of which some steps were left out, the others going on as they did. -/
structure GoesOn (g : Gate) (keep : Nat → Bool) (steps rest : List Step) : Prop where
  replies : (run g rest).answer = pick keep 0 (run g steps).answer
  /-- reporting is on in both or in neither, with one status, one cap and as many clients made -/
  state : (run g rest).state = (run g steps).state
  made : Calls.made (run g rest).calls = Calls.made (run g steps).calls
  closed : Calls.closed (run g rest).calls = Calls.closed (run g steps).calls
  handed : Calls.handed (run g rest).calls = Calls.handed (run g steps).calls
  dropped : ∀ o,
    Calls.closed (runAndDrop g rest o).calls = Calls.closed (runAndDrop g steps o).calls

theorem run_without {keep : Nat → Bool} {steps rest : List Step} {g : Gate}
    {earlier : List ClientCall} {n : Nat}
    (hidle : ∀ e ∈ pick (fun i => !keep i) n (history g earlier steps), e.idle = true)
    (hrest : List.Forall₂ Agree (pick keep n steps) rest) :
    (run g rest).answer = pick keep n (run g steps).answer ∧
      (run g rest).state = (run g steps).state ∧
      (run g rest).calls.map ClientCall.blind = (run g steps).calls.map ClientCall.blind := by
  induction steps generalizing g earlier n rest with
  | nil =>
    cases hrest
    exact ⟨rfl, rfl, rfl⟩
  | cons s steps ih =>
    rw [history] at hidle
    show _ = pick keep n ((s.run g).answer :: (run (s.run g).state steps).answer) ∧
      _ = (run (s.run g).state steps).state ∧
      _ = ((s.run g).calls ++ (run (s.run g).state steps).calls).map _
    cases hk : keep n with
    | false =>
      rw [pick_kept (by rw [hk]; rfl)] at hidle
      rw [pick_left hk] at hrest
      obtain ⟨hs, htail⟩ := List.forall_mem_cons.mp hidle
      -- the step that is left out was idle, so the others run at the same gate
      obtain ⟨hstate, hcalls⟩ := Step.run_idle hs
      obtain ⟨ha, hs, hc⟩ := ih htail hrest
      rw [hstate] at ha hs hc
      rw [pick_left hk, hcalls, hstate]
      exact ⟨ha, hs, hc⟩
    | true =>
      rw [pick_left (by rw [hk]; rfl)] at hidle
      rw [pick_kept hk] at hrest
      obtain ⟨s', rest, hs', hrest', rfl⟩ := List.forall₂_cons_left_iff.mp hrest
      obtain ⟨hstate, hcalls⟩ := Step.run_alike hs'.1 g
      obtain ⟨ha, hs, hc⟩ := ih hidle hrest'
      rw [pick_kept hk, List.map_append]
      show (s'.run g).answer :: (run (s'.run g).state rest).answer = _ ∧
        (run (s'.run g).state rest).state = _ ∧
        ((s'.run g).calls ++ (run (s'.run g).state rest).calls).map _ = _
      rw [List.map_append, ← hstate, ← hcalls, ← Step.reply_agree hs' g, ha, hs, hc]
      exact ⟨rfl, rfl, rfl⟩

/-- **Whichever idle steps are left out of a session, the others go on as they did.** -/
theorem goesOn {g : Gate} {keep : Nat → Bool} {steps rest : List Step}
    (hidle : ∀ e ∈ pick (fun n => !keep n) 0 (history g [] steps), e.idle = true)
    (hrest : List.Forall₂ Agree (pick keep 0 steps) rest) : GoesOn g keep steps rest := by
  obtain ⟨hreplies, hstate, hcalls⟩ := run_without hidle hrest
  have hclosed := Calls.flatMap_of_map ClientCall.closed_blind hcalls
  constructor
  · exact hreplies
  · exact hstate
  · exact Calls.flatMap_of_map ClientCall.made_blind hcalls
  · exact hclosed
  · exact Calls.flatMap_of_map ClientCall.handed_blind hcalls
  · intro o
    show Calls.closed ((run g rest).calls ++ ((run g rest).state.manager.shutDown o).calls) =
      Calls.closed ((run g steps).calls ++ ((run g steps).state.manager.shutDown o).calls)
    rw [Calls.closed_append, Calls.closed_append, hstate]
    exact congrArg (· ++ _) hclosed

/-- Reporting is switched on at the third attempt, and again, and off twice; events are tracked and
submitted before, meanwhile and after. -/
def patchy : List Step :=
  let made : Outcomes := ⟨fun _ => none, some .queueFull, some .closed⟩
  let refused : Outcomes := ⟨fun _ => some (.creation "create failed"), none, none⟩
  let raiseHand : TrackRequest := { event := "user_raise_hand", clientType := "web" }
  [⟨.manage .disable, made⟩, ⟨.manage (.enable {}), refused⟩,
    ⟨.manage (.setEnabled true {}), refused⟩, ⟨.submit raiseHand "u1", made⟩,
    ⟨.manage (.enable {}), made⟩, ⟨.manage (.setEnabled true {}), refused⟩,
    ⟨.submit { raiseHand with clientType := "tv" } "u1", made⟩, ⟨.submit raiseHand "u1", made⟩,
    ⟨.manage .disable, made⟩, ⟨.manage (.setEnabled false {}), made⟩,
    ⟨.manage (.track "user_raise_hand" []), made⟩, ⟨.manage .status, made⟩]

theorem goesOn_patchy :
    let keep : Nat → Bool := fun n => n = 4 || n = 7 || n = 8 || n = 11
    (pick (fun n => !keep n) 0 (history (fresh 25) [] patchy)).all Entry.idle = true ∧
      (pick keep 0 patchy).length = 4 ∧ GoesOn (fresh 25) keep patchy (pick keep 0 patchy) := by
  intro keep
  have hidle : (pick (fun n => !keep n) 0 (history (fresh 25) [] patchy)).all Entry.idle =
      true := by decide
  refine ⟨hidle, rfl, goesOn (List.all_eq_true.mp hidle) ?_⟩
  exact List.forall₂_same.mpr fun s _ => ⟨⟨rfl, fun _ _ => rfl⟩, fun _ => rfl⟩

end Session

end TelemetryGate
