import TelemetryGate.Proofs.Session.Program
import TelemetryGate.Watch

/-!
# Settings that are loaded again

A reload fails at one of three places: the settings do not load, no client is made from them, or the
live client does not close.  Only the last takes the client away.

* `Watch.reload_of_fault`, `Watch.reload_of_settings`   a reload, by what the file holds;
* `Watch.Failed`, `Watch.failed_of_error`               how a reload fails, and what it leaves.
-/

namespace TelemetryGate.Watch

variable {w : Watch} {s : Surroundings} {o : Outcomes} {g : Gate}

theorem reload_of_fault {f : Settings.LoadFault}
    (h : Settings.loadValid s (some w.path) = .error f) :
    w.reload s o g = { answer := .error f.error, state := g, log := Settings.loadLog s } := by
  unfold reload
  generalize Settings.loadValid s (some w.path) = loaded at h
  subst h
  rfl

theorem reload_of_settings {settings : Settings}
    (h : Settings.loadValid s (some w.path) = .ok settings) :
    (w.reload s o g).answer = (g.applySettings settings o).answer.mapError .lifecycle ∧
      (w.reload s o g).state = (g.applySettings settings o).state ∧
      (w.reload s o g).calls = (g.applySettings settings o).calls := by
  unfold reload
  generalize Settings.loadValid s (some w.path) = loaded at h
  subst h
  dsimp only
  generalize g.applySettings settings o = applied
  obtain ⟨answer, state, calls, log⟩ := applied
  cases answer with
  | error e => exact ⟨rfl, rfl, List.append_nil _⟩
  | ok _ => exact ⟨rfl, rfl, List.append_nil _⟩

/-- How a reload fails, what it leaves and what clients were asked to do. -/
inductive Failed (w : Watch) (s : Surroundings) (o : Outcomes) (g : Gate) :
    HostError → Gate → List ClientCall → Prop
  /-- settings that do not load change nothing -/
  | unloaded {f : Settings.LoadFault} (load : Settings.loadValid s (some w.path) = .error f) :
    Failed w s o g f.error g []
  /-- settings from which no client is made leave the manager as it is -/
  | uncreated {settings : Settings} {reason : LifecycleError} {cap : Nat}
    (load : Settings.loadValid s (some w.path) = .ok settings) (on : settings.reports = true)
    (live : g.manager.live = none) (create : o.create settings.clientConfig = some reason)
    (cap_eq : settings.bodyCap = g.cap → cap = g.cap) :
    Failed w s o g (.lifecycle reason) ⟨g.manager, cap⟩ []
  /-- settings that switch reporting off take the client away, which does not close -/
  | unclosed {settings : Settings} {client : LiveClient} {cause : ReportError} {cap : Nat}
    (load : Settings.loadValid s (some w.path) = .ok settings) (off : settings.reports = false)
    (live : g.manager.live = some client) (close : o.close = some cause)
    (cap_eq : settings.bodyCap = g.cap → cap = g.cap) :
    Failed w s o g (.lifecycle (.close cause)) ⟨{ g.manager with live := none }, cap⟩
      [.close client.number (some cause)]

/-- **A reload that fails leaves the gate as it was if the settings do not load, and the manager as
it was unless the settings switch it off.** -/
theorem failed_of_error {e : HostError} (h : (w.reload s o g).answer = .error e) :
    Failed w s o g e (w.reload s o g).state (w.reload s o g).calls := by
  cases hload : Settings.loadValid s (some w.path) with
  | error f =>
    rw [reload_of_fault hload] at h ⊢
    cases h
    exact .unloaded hload
  | ok settings =>
    obtain ⟨hanswer, hstate, hcalls⟩ := reload_of_settings (o := o) (g := g) hload
    obtain ⟨hswitch, hafter, hasked⟩ := Session.applySettings_eq g settings o
    -- of what a reload of such settings does, only the switch can fail
    obtain ⟨reason, hreason, rfl⟩ : ∃ reason,
        (g.manager.setEnabled settings.reports settings.clientConfig o).answer = .error reason ∧
          e = .lifecycle reason := by
      rw [hanswer, hswitch] at h
      cases hs : (g.manager.setEnabled settings.reports settings.clientConfig o).answer with
      | ok _ => rw [hs] at h; cases h
      | error reason => rw [hs] at h; cases h; exact ⟨reason, rfl, rfl⟩
    have hcap : settings.bodyCap = g.cap →
        (if settings.bodyCap = 0 then g.cap else settings.bodyCap) = g.cap := by
      intro hc
      rw [hc, ite_self]
    rw [hstate, hafter, hcalls, hasked]
    cases hr : settings.reports with
    | true =>
      rw [hr] at hreason
      obtain ⟨hcreate, hlive, hsame, hnone⟩ := Manager.enable_of_error hreason
      show Failed w s o g _ ⟨(g.manager.enable _ _).state, _⟩ (g.manager.enable _ _).calls
      rw [hsame, hnone]
      exact .uncreated hload hr hlive hcreate hcap
    | false =>
      rw [hr] at hreason
      obtain ⟨client, cause, hlive, hclose, rfl, hgone, hone⟩ := Manager.disable_of_error hreason
      show Failed w s o g _ ⟨(g.manager.disable _).state, _⟩ (g.manager.disable _).calls
      rw [hgone, hone]
      exact .unclosed hload hr hlive hclose hcap

/-! ### one file -/

def callsFile : Watch := ⟨"calls.json", 250⟩

/-- That file and nothing else. -/
def holding (text : String) : Surroundings :=
  { files := { home := [], entries := [(["calls.json"], .file text.toUTF8.toList)] } }

theorem eq_ok_of_toOption {r : Except Settings.LoadFault Settings} {settings : Settings}
    (h : r.toOption = some settings) : r = .ok settings := by
  cases r with
  | error f => cases h
  | ok settings' => cases h; rfl

/-- A creation fails, with a cap that stays. -/
theorem failed_uncreated :
    let text := "\x7b\"enable_diagnostics\":true,\"request_body_max_size_bytes\":25,"
      ++ "\"telemetry\":\x7b\"write_key\":\"k\",\"dataplane_url\":\"u\"\x7d,"
      ++ "\"host\":\x7b\"diagnostic_id\":\"i\"\x7d\x7d"
    let refused : Outcomes := ⟨fun _ => some (.creation "create failed"), none, none⟩
    let e : HostError := .lifecycle (.creation "create failed")
    let reloaded := callsFile.reload (holding text) refused (Session.fresh 25)
    reloaded.answer = .error e ∧
      Failed callsFile (holding text) refused (Session.fresh 25) e reloaded.state
        reloaded.calls := by
  intro text refused e reloaded
  have hload : Settings.loadValid (holding text) (some callsFile.path) =
      .ok { diagnostics := some true, bodyCap := 25
            sink := { writeKey := "k", dataplaneUrl := "u" }, host := { diagnosticId := "i" } } :=
    eq_ok_of_toOption (by decide +kernel)
  have hanswer : reloaded.answer = .error e := (reload_of_settings hload).1
  exact ⟨hanswer, failed_of_error hanswer⟩

/-- A client that does not close is gone, and the cap is another. -/
theorem reload_unclosed :
    let text := "\x7b\"request_body_max_size_bytes\":7\x7d"
    let stuck : Outcomes := ⟨fun _ => none, none, some .closed⟩
    let config : ClientConfig := { writeKey := "k", dataplaneUrl := "u", diagnosticId := "i" }
    let g := (Session.run (Session.fresh 25) [⟨.manage (.enable config), stuck⟩]).state
    let reloaded := callsFile.reload (holding text) stuck g
    reloaded.answer = .error (.lifecycle (.close .closed)) ∧
      g.manager.isEnabled = true ∧ reloaded.state.manager.isEnabled = false ∧
      g.manager.status ≠ reloaded.state.manager.status ∧
      g.cap = 25 ∧ reloaded.state.cap = 7 := by
  intro text stuck config g reloaded
  have hload : Settings.loadValid (holding text) (some callsFile.path) = .ok { bodyCap := 7 } :=
    eq_ok_of_toOption (by decide +kernel)
  obtain ⟨hanswer, hstate, _⟩ := reload_of_settings (o := stuck) (g := g) hload
  refine ⟨hanswer, rfl, ?_, ?_, rfl, ?_⟩
  · rw [hstate]
    rfl
  · rw [hstate]
    decide
  · rw [hstate]
    rfl

end TelemetryGate.Watch
