import TelemetryGate.Manager

/-!
# The manager alone

What each operation comes to, by what is live and how things turn out.
-/

namespace TelemetryGate.Manager

variable {m : Manager} {config : ClientConfig} {o : Outcomes} {client : LiveClient}

theorem enable_of_live (h : m.live = some client) :
    m.enable config o = { answer := .ok (), state := m } := by
  rw [enable, h]

theorem enable_of_refused {e : LifecycleError} (h : m.live = none)
    (he : o.create config = some e) :
    m.enable config o =
      { answer := .error e
        state := m
        log := [{ level := .debug, target, message := "Initializing telemetry" }] } := by
  rw [enable, h]
  simp only [he]

theorem enable_of_made (h : m.live = none) (he : o.create config = none) :
    m.enable config o =
      { answer := .ok ()
        state := ⟨some ⟨m.created + 1, config⟩, m.created + 1⟩
        calls := [.create (m.created + 1) config]
        log := [{ level := .debug, target, message := "Initializing telemetry" }] } := by
  rw [enable, h]
  simp only [he]

theorem disable_of_none (h : m.live = none) :
    m.disable o = { answer := .ok (), state := m } := by
  rw [disable, h]

theorem disable_of_live (h : m.live = some client) :
    m.disable o =
      { answer := match o.close with | some e => .error (.close e) | none => .ok ()
        state := { m with live := none }
        calls := [.close client.number o.close]
        log := [{ level := .debug, target, message := "Deinitializing telemetry" }] } := by
  obtain ⟨live, created⟩ := m
  cases h
  rfl

theorem disable_live (m : Manager) (o : Outcomes) : (m.disable o).state.live = none := by
  cases h : m.live with
  | none => rw [disable_of_none h]; exact h
  | some client => rw [disable_of_live h]

variable {e : LifecycleError}

/-- Reporting that cannot be switched on was off and stays so. -/
theorem enable_of_error (h : (m.enable config o).answer = .error e) :
    o.create config = some e ∧ m.live = none ∧ (m.enable config o).state = m ∧
      (m.enable config o).calls = [] := by
  cases hl : m.live with
  | some client =>
    rw [enable_of_live hl] at h
    cases h
  | none =>
    cases hc : o.create config with
    | none =>
      rw [enable_of_made hl hc] at h
      cases h
    | some reason =>
      rw [enable_of_refused hl hc] at h ⊢
      cases h
      exact ⟨rfl, rfl, rfl, rfl⟩

/-- A client that does not close is gone all the same. -/
theorem disable_of_error (h : (m.disable o).answer = .error e) :
    ∃ client cause, m.live = some client ∧ o.close = some cause ∧ e = .close cause ∧
      (m.disable o).state = { m with live := none } ∧
      (m.disable o).calls = [.close client.number (some cause)] := by
  cases hl : m.live with
  | none =>
    rw [disable_of_none hl] at h
    cases h
  | some client =>
    rw [disable_of_live hl] at h ⊢
    cases hc : o.close with
    | none =>
      rw [hc] at h
      cases h
    | some cause =>
      rw [hc] at h
      cases h
      exact ⟨client, cause, rfl, rfl, rfl, rfl, rfl⟩

variable {event : String} {props : Properties}

theorem track_of_none (h : m.live = none) :
    m.track event props o = { answer := (), state := m } := by
  rw [track, h]

/-- An event goes to the live client, once. -/
theorem track_calls_of_live (h : m.live = some client) :
    (m.track event props o).calls = [.track client.number event props o.track] := by
  rw [track, h]

theorem track_state (m : Manager) (event : String) (props : Properties) (o : Outcomes) :
    (m.track event props o).state = m := by
  cases h : m.live with
  | none => rw [track_of_none h]
  | some client => rw [track, h]

end TelemetryGate.Manager
