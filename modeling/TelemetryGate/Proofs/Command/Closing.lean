import TelemetryGate.Command.Execute
import TelemetryGate.Proofs.Command.Replay
import TelemetryGate.Proofs.Session.Ledger

/-!
# The client of a replay

A command that replays an input makes at most one client and closes it at the end, whatever the
lines are and however things turn out.  But an input that cannot be opened ends it before that.

* `Session.Balanced`        the clients closed and the live one are those that were live or made;
* `Job.applySettings_off`   what settings come to where reporting is off;
* `Job.MakesClient`         when they come to a client;
* `Job.Settled`             reporting is off, and every client that was made is closed, once;
* `Job.settled_iff`         when a replay leaves it so.
-/

namespace TelemetryGate

namespace Session

open Callers (numberOf)

/-- The clients closed and the live one are those that were live or made, and clients get their
numbers in order. -/
structure Balanced (before after : Manager) (calls : List ClientCall) : Prop where
  closed : Calls.closed calls ++ numberOf after.live = numberOf before.live ++ Calls.made calls
  made : List.range' 1 before.created ++ Calls.made calls = List.range' 1 after.created

section
variable {m m' m'' : Manager} {calls calls' : List ClientCall}

theorem Balanced.refl (m : Manager) : Balanced m m [] :=
  ⟨(List.append_nil _).symm, List.append_nil _⟩

theorem Balanced.trans (h : Balanced m m' calls) (h' : Balanced m' m'' calls') :
    Balanced m m'' (calls ++ calls') := by
  constructor
  · rw [Calls.closed_append, Calls.made_append, List.append_assoc, h'.closed, ← List.append_assoc,
      h.closed, List.append_assoc]
  · rw [Calls.made_append, ← List.append_assoc, h.made, h'.made]

theorem Step.balanced (s : Step) (g : Gate) :
    Balanced g.manager (s.run g).state.manager (s.run g).calls :=
  ⟨(s.effect g).closed_eq, (s.effect g).made_eq⟩

theorem run_balanced (g : Gate) (steps : List Step) :
    Balanced g.manager (run g steps).state.manager (run g steps).calls := by
  induction steps generalizing g with
  | nil => exact .refl g.manager
  | cons s rest ih => exact (s.balanced g).trans (ih (s.run g).state)

/-- No number is that of two clients. -/
theorem Balanced.nodup (h : Balanced m m' calls) : (Calls.made calls).Nodup := by
  have hall : (List.range' 1 m'.created).Nodup := List.nodup_range'
  rw [← h.made] at hall
  exact (List.nodup_append.mp hall).2.1

end

end Session

namespace Command

/-- A replay is a session of submissions, also of an input that cannot be read to its end. -/
theorem replay_balanced (feed : Feed) (user : String) (o : Nat → Outcomes) (g : Gate) :
    Session.Balanced g.manager (replay feed user o g).state.manager
      (replay feed user o g).calls := by
  have hsubmits := submitLines_eq user o [] g feed.lines
  have hsession := Session.run_balanced g (submissions user o 0 (submitted feed.lines))
  have hlines : Session.Balanced g.manager
      (submitLines user o [] g feed.lines).state.manager
      (submitLines user o [] g feed.lines).calls := by
    rw [hsubmits.state, hsubmits.calls]
    exact hsession
  -- what comes after the lines asks nothing of clients
  unfold replay Done.andThen
  generalize submitLines user o [] g feed.lines = done at hlines
  obtain ⟨answer, state, calls, log⟩ := done
  cases answer with
  | error e => exact hlines.trans (.refl _)
  | ok responses => cases feed.failure <;> exact hlines.trans (.refl _)

end Command

namespace Job

open Session (Balanced)

variable {j : Job} {s : Surroundings} {outside : List UInt8} (user : String) {input : Option Path}
  {o : Outcomes} (each : Nat → Outcomes) {g : Gate}

/-- Nothing is wrong with the settings, they switch reporting on, and a client is made of them. -/
def MakesClient (j : Job) (o : Outcomes) : Prop :=
  Command.problems? j.settings = none ∧ j.settings.reports = true ∧
    o.create j.settings.clientConfig = none

theorem applySettings_balanced (j : Job) (o : Outcomes) (g : Gate) :
    Balanced g.manager (j.applySettings o g).state.manager (j.applySettings o g).calls := by
  unfold applySettings
  cases Command.problems? j.settings with
  | some problems => exact .refl g.manager
  | none => exact (Session.Step.mk (.applySettings j.settings) o).balanced g

/-- Where reporting is off, settings make a client or leave it off. -/
theorem applySettings_off (hoff : g.manager.live = none) (j : Job) (o : Outcomes) :
    (j.MakesClient o ∧ (j.applySettings o g).answer = .ok () ∧
      ∃ client, (j.applySettings o g).state.manager.live = some client) ∨
    (¬ j.MakesClient o ∧ (j.applySettings o g).state.manager.live = none) := by
  unfold applySettings MakesClient
  cases Command.problems? j.settings with
  | some problems => exact .inr ⟨fun h => (nomatch h.1), hoff⟩
  | none =>
    obtain ⟨hanswer, hstate, _⟩ := Session.applySettings_eq g j.settings o
    dsimp only [Done.map]
    rw [hstate, hanswer]
    unfold Manager.setEnabled
    cases j.settings.reports with
    | false => exact .inr ⟨fun h => (nomatch h.2.1), Manager.disable_live ..⟩
    | true =>
      rw [if_pos rfl]
      cases hc : o.create j.settings.clientConfig with
      | some reason =>
        rw [Manager.enable_of_refused hoff hc]
        exact .inr ⟨fun h => (nomatch h.2.2), hoff⟩
      | none =>
        rw [Manager.enable_of_made hoff hc]
        exact .inl ⟨⟨rfl, rfl, rfl⟩, rfl, _, rfl⟩

/-- Reporting is off, and every client that was made is closed, once. -/
structure Settled {α : Type} (d : Done Gate α) : Prop where
  off : d.state.manager.isEnabled = false
  closed : ∀ n ∈ Calls.made d.calls, (Calls.closed d.calls).count n = 1

theorem settled_of_off {α : Type} {d : Done Gate α} (hoff : g.manager.live = none)
    (h : Balanced g.manager d.state.manager d.calls) (hlive : d.state.manager.live = none) :
    Settled d := by
  have hclosed := h.closed
  rw [hlive, hoff] at hclosed
  have heq : Calls.closed d.calls = Calls.made d.calls :=
    (List.append_nil _).symm.trans hclosed
  refine ⟨by rw [Manager.isEnabled, hlive]; rfl, fun n hn => ?_⟩
  rw [heq]
  exact List.count_eq_one_of_mem h.nodup hn

/-- What a replay comes to once the settings are applied and its input is open: the client is
closed. -/
theorem track_of_open {feed : Command.Feed} (hok : (j.applySettings o g).answer = .ok ())
    (hopen : openInput s outside input = .ok feed) :
    Balanced g.manager (j.track s outside user input o each g).state.manager
      (j.track s outside user input o each g).calls ∧
    (j.track s outside user input o each g).state.manager.live = none := by
  have happlied := applySettings_balanced j o g
  have hreplayed := Command.replay_balanced feed user each (j.applySettings o g).state
  have hclosed := (Session.Step.mk (.manage .disable) o).balanced
    (Command.replay feed user each (j.applySettings o g).state).state
  unfold track Done.andThen
  rw [hok]
  dsimp only
  rw [hopen]
  exact ⟨happlied.trans (hreplayed.trans hclosed), Manager.disable_live ..⟩

/-- What it comes to otherwise: what applying the settings comes to. -/
theorem track_of_ended
    (h : (∃ e, (j.applySettings o g).answer = .error e) ∨
      ∃ e, openInput s outside input = .error e) :
    (j.track s outside user input o each g).state = (j.applySettings o g).state ∧
      (j.track s outside user input o each g).calls = (j.applySettings o g).calls := by
  unfold track Done.andThen
  cases hanswer : (j.applySettings o g).answer with
  | error e => exact ⟨rfl, List.append_nil _⟩
  | ok _ =>
    rcases h with ⟨e, he⟩ | ⟨e, he⟩
    · rw [hanswer] at he
      cases he
    · rw [he]
      exact ⟨rfl, List.append_nil _⟩

/-- So nothing is left behind if the settings left reporting off. -/
theorem settled_of_ended (hoff : g.manager.live = none)
    (hlive : (j.applySettings o g).state.manager.live = none)
    (h : (∃ e, (j.applySettings o g).answer = .error e) ∨
      ∃ e, openInput s outside input = .error e) :
    Settled (j.track s outside user input o each g) := by
  obtain ⟨hstate, hcalls⟩ := track_of_ended user each h
  refine settled_of_off hoff ?_ ?_
  · rw [hstate, hcalls]
    exact applySettings_balanced j o g
  · rw [hstate, hlive]

/-- **A command that replays an input where reporting is off leaves it off and every client that it
made closed once, whatever the settings, the input and its bytes are and however things turn out,
unless the settings make a client and the input cannot be opened.** -/
theorem settled_iff (hoff : g.manager.live = none) :
    Settled (j.execute s outside o (.track user input) g each) ↔
      ¬ (j.MakesClient o ∧ ∃ e, openInput s outside input = .error e) := by
  have hsame : Settled (j.execute s outside o (.track user input) g each) ↔
      Settled (j.track s outside user input o each g) :=
    ⟨fun h => ⟨h.off, h.closed⟩, fun h => ⟨h.off, h.closed⟩⟩
  rw [hsame]
  rcases applySettings_off hoff j o with ⟨hmakes, hok, client, hlive⟩ | ⟨hnot, hlive⟩
  · cases hinput : openInput s outside input with
    | ok feed =>
      obtain ⟨hbalanced, hgone⟩ := track_of_open user each hok hinput
      exact iff_of_true (settled_of_off hoff hbalanced hgone) fun h => nomatch h.2.choose_spec
    | error e =>
      -- the client that was made is live still
      refine iff_of_false (fun h => ?_) fun h => h ⟨hmakes, e, rfl⟩
      have hoff' := h.off
      rw [(track_of_ended user each (.inr ⟨e, hinput⟩)).1, Manager.isEnabled, hlive] at hoff'
      cases hoff'
  · refine iff_of_true ?_ fun h => hnot h.1
    cases hanswer : (j.applySettings o g).answer with
    | error e => exact settled_of_ended user each hoff hlive (.inl ⟨e, hanswer⟩)
    | ok _ =>
      cases hinput : openInput s outside input with
      | error e => exact settled_of_ended user each hoff hlive (.inr ⟨e, hinput⟩)
      | ok feed =>
        obtain ⟨hbalanced, hgone⟩ := track_of_open user each hanswer hinput
        exact settled_of_off hoff hbalanced hgone

/-! ### two inputs -/

/-- Settings that switch reporting on. -/
def replayJob : Job :=
  { settings :=
      { diagnostics := some true
        sink := { writeKey := "key", dataplaneUrl := "https://dp.example.com" }
        host := { diagnosticId := "diag" } } }

/-- No file at all. -/
def nowhere : Surroundings := { files := { home := [] } }

/-- Clients are made and take events, but do not close. -/
def unclosing : Outcomes := ⟨fun _ => none, none, some .closed⟩

/-- An input that breaks off in the middle of a character is replayed as far as it goes, and its
client is closed, as well as it can be. -/
theorem settled_brokenInput :
    (Session.fresh 25).manager.live = none ∧ replayJob.MakesClient unclosing ∧
      Settled (replayJob.execute nowhere [123, 10, 195] unclosing (.track "u1" none)
        (Session.fresh 25)) := by
  refine ⟨rfl, ⟨by decide +kernel, rfl, rfl⟩,
    (settled_iff "u1" (fun _ => unclosing) rfl).mpr fun h => ?_⟩
  obtain ⟨e, he⟩ := h.2
  cases he

/-- An input that is not there leaves its client live. -/
theorem left_missingInput :
    let d := replayJob.execute nowhere [] unclosing (.track "u1" (some "missing.jsonl"))
      (Session.fresh 25)
    (Session.fresh 25).manager.live = none ∧
      d.answer = .error (.io "No such file or directory (os error 2)") ∧ ¬ Settled d ∧
      d.state.manager.isEnabled = true ∧ Calls.made d.calls = [1] ∧ Calls.closed d.calls = [] := by
  intro d
  have hon : d.state.manager.isEnabled = true := by decide +kernel
  refine ⟨rfl, by rfl, fun h => ?_, hon, by decide +kernel, by decide +kernel⟩
  have hoff := h.off
  rw [hon] at hoff
  cases hoff

end Job

end TelemetryGate
