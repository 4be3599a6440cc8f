import TelemetryGate.Proofs.Callers.Clients
import TelemetryGate.Proofs.Session.Program

/-!
# The clients of a session

* `handedBy`                       what an errand hands to the live client;
* `Effect`, `Step.effect`          all that an errand can do, and so a step of a session;
* `Ledger`                         the clients closed and the live one are those that were made;
* `Ledger.history`, `Ledger.run`   it is so at every operation of a session, and at its end.
-/

namespace TelemetryGate.Session

open Callers (Errand Question numberOf)

/-! ### one errand -/

/-- What an errand hands to the live client. -/
def handedBy (e : Option Errand) (live : Option LiveClient) : List Handed :=
  match e, live with
  | some (.ask (.track event props)), some client => [⟨client.number, event, props⟩]
  | _, _ => []

@[simp] theorem handedBy_off (e : Option Errand) : handedBy e none = [] := by
  unfold handedBy
  split
  · contradiction
  · rfl

/-- All that an errand can do: the manager it leaves, and what it asks of clients. -/
inductive Effect (o : Outcomes) (m : Manager) : Option Errand → Manager → List ClientCall → Prop
  | nothing {e} (h : handedBy e m.live = []) : Effect o m e m []
  | made {config} (hl : m.live = none) (hc : o.create config = none) :
    Effect o m (some (.on config)) ⟨some ⟨m.created + 1, config⟩, m.created + 1⟩
      [.create (m.created + 1) config]
  | closed {client} (hl : m.live = some client) :
    Effect o m (some .off) { m with live := none } [.close client.number o.close]
  | handed {client event props} (hl : m.live = some client) :
    Effect o m (some (.ask (.track event props))) m [.track client.number event props o.track]

theorem perform_effect (e : Option Errand) (o : Outcomes) (m : Manager) :
    Effect o m e (perform e o m).state (perform e o m).calls := by
  cases e with
  | none => exact .nothing rfl
  | some e =>
    cases e with
    | on config =>
      show Effect o m _ (m.enable config o).state (m.enable config o).calls
      cases hl : m.live with
      | some client =>
        rw [Manager.enable_of_live hl]
        exact .nothing rfl
      | none =>
        cases hc : o.create config with
        | some reason =>
          rw [Manager.enable_of_refused hl hc]
          exact .nothing rfl
        | none =>
          rw [Manager.enable_of_made hl hc]
          exact .made hl hc
    | off =>
      show Effect o m _ (m.disable o).state (m.disable o).calls
      cases hl : m.live with
      | none =>
        rw [Manager.disable_of_none hl]
        exact .nothing rfl
      | some client =>
        rw [Manager.disable_of_live hl]
        exact .closed hl
    | ask q =>
      cases q with
      | track event props =>
        show Effect o m _ (m.track event props o).state (m.track event props o).calls
        rw [Manager.track_state]
        cases hl : m.live with
        | none =>
          rw [Manager.track_of_none hl]
          exact .nothing (by rw [hl]; rfl)
        | some client =>
          rw [Manager.track_calls_of_live hl]
          exact .handed hl
      | isEnabled => exact .nothing rfl
      | status => exact .nothing rfl

section
variable {o : Outcomes} {m m' : Manager} {e : Option Errand} {calls : List ClientCall}

theorem Effect.handed_eq (h : Effect o m e m' calls) : Calls.handed calls = handedBy e m.live := by
  cases h with
  | nothing h => exact h.symm
  | made hl hc => rfl
  | closed hl => rfl
  | handed hl => rw [hl]; rfl

theorem Effect.closed_eq (h : Effect o m e m' calls) :
    Calls.closed calls ++ numberOf m'.live = numberOf m.live ++ Calls.made calls := by
  cases h with
  | nothing h => exact (List.append_nil _).symm
  | made hl hc => rw [hl]; rfl
  | closed hl => rw [hl]; rfl
  | handed hl => exact (List.append_nil _).symm

theorem Effect.made_eq (h : Effect o m e m' calls) :
    List.range' 1 m.created ++ Calls.made calls = List.range' 1 m'.created := by
  cases h with
  | nothing h => exact List.append_nil _
  | made hl hc =>
    show List.range' 1 m.created ++ [m.created + 1] = List.range' 1 (m.created + 1)
    rw [List.range'_1_concat, Nat.add_comm]
  | closed hl => exact List.append_nil _
  | handed hl => exact List.append_nil _

end

/-- What a step of a session does to the manager and asks of clients. -/
theorem Step.effect (s : Step) (g : Gate) :
    Effect s.outcomes g.manager (s.operation.errand g.cap) (s.run g).state.manager
      (s.run g).calls := by
  have hstate : (s.run g).state.manager =
      (perform (s.operation.errand g.cap) s.outcomes g.manager).state :=
    congrArg Gate.manager (Operation.run_state ..)
  have hcalls : (s.run g).calls = (perform (s.operation.errand g.cap) s.outcomes g.manager).calls :=
    Operation.run_calls ..
  rw [hstate, hcalls]
  exact perform_effect ..

/-! ### the ledger -/

/-- The clients closed and the live one are those that were made, in the order of their numbers. -/
structure Ledger (g : Gate) (earlier : List ClientCall) : Prop where
  closed : Calls.closed earlier ++ numberOf g.manager.live = Calls.made earlier
  made : Calls.made earlier = List.range' 1 g.manager.created

section
variable {g : Gate} {earlier : List ClientCall} {client : LiveClient}

theorem Ledger.fresh (cap : Nat) : Ledger (fresh cap) [] := ⟨rfl, rfl⟩

theorem Ledger.nodup (h : Ledger g earlier) : (Calls.made earlier).Nodup := by
  rw [h.made]
  exact List.nodup_range'

theorem Ledger.latest (h : Ledger g earlier) (hl : g.manager.live = some client) :
    Calls.latest earlier = client.number := by
  have hmade : Calls.made earlier = Calls.closed earlier ++ [client.number] := by
    rw [← h.closed, hl]
    rfl
  unfold Calls.latest
  rw [hmade, List.getLastD_concat]

/-- The live client was not closed. -/
theorem Ledger.unclosed (h : Ledger g earlier) (hl : g.manager.live = some client) :
    client.number ∈ Calls.made earlier ∧ client.number ∉ Calls.closed earlier := by
  have hmade : Calls.closed earlier ++ [client.number] = Calls.made earlier := by
    rw [← h.closed, hl]
    rfl
  have hd := h.nodup
  rw [← hmade] at hd ⊢
  refine ⟨List.mem_append_right _ (List.mem_singleton_self _), fun hc => ?_⟩
  exact (List.nodup_append.mp hd).2.2 _ hc _ (List.mem_singleton_self _) rfl

theorem Ledger.step (h : Ledger g earlier) (s : Step) :
    Ledger (s.run g).state (earlier ++ (s.run g).calls) := by
  constructor
  · rw [Calls.closed_append, Calls.made_append, ← h.closed, List.append_assoc, List.append_assoc,
      (s.effect g).closed_eq]
  · rw [Calls.made_append, h.made, (s.effect g).made_eq]

theorem Ledger.run (h : Ledger g earlier) (steps : List Step) :
    Ledger (run g steps).state (earlier ++ (run g steps).calls) := by
  induction steps generalizing g earlier with
  | nil =>
    show Ledger g (earlier ++ [])
    rw [List.append_nil]
    exact h
  | cons s rest ih =>
    have hrest := ih (h.step s)
    rw [List.append_assoc] at hrest
    exact hrest

/-- It is so when an operation of the session begins, which is one of its steps. -/
theorem Ledger.history (h : Ledger g earlier) {steps : List Step} {e : Entry}
    (he : e ∈ history g earlier steps) :
    Ledger e.gate e.earlier ∧ ∃ s ∈ steps, e = s.entry e.gate e.earlier := by
  induction steps generalizing g earlier with
  | nil => cases he
  | cons s rest ih =>
    rcases List.mem_cons.mp he with rfl | he
    · exact ⟨h, s, List.mem_cons_self, rfl⟩
    · obtain ⟨hledger, s', hs', hentry⟩ := ih (h.step s) he
      exact ⟨hledger, s', List.mem_cons_of_mem s hs', hentry⟩

end

end TelemetryGate.Session
