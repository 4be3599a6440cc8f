import Mathlib.Data.List.DropRight
import TelemetryGate.Proofs.Session.Program

/-!
# Which settings are in force

A session in which settings change and nothing else happens.  The cap and the client go apart: the
cap follows every change, the client only the one that made it.

* `Change`               new settings, and how things turn out while they are applied;
* `applied`, `entries`   what comes of changes, and the history of it;
* `maker?`               the change that made the live client;
* `Made.change`          one more change;
* `InForce`, `inForce`   the cap, the client and the status after any changes.
-/

namespace TelemetryGate

theorem Settings.reports_eq_true {s : Settings} : s.reports = true ↔ s.diagnostics = some true := by
  obtain ⟨diagnostics, bodyCap, sink, host, logging⟩ := s
  cases diagnostics with
  | none => exact ⟨(fun h => nomatch h), (fun h => nomatch h)⟩
  | some on => exact ⟨fun h => congrArg some h, Option.some.inj⟩

namespace Session

/-! ### one step more -/

section
variable (g : Gate) (earlier : List ClientCall) (steps : List Step) (s : Step)

theorem run_concat_state : (run g (steps ++ [s])).state = (s.run (run g steps).state).state := by
  induction steps generalizing g with
  | nil => rfl
  | cons s' rest ih => exact ih (s'.run g).state

theorem history_concat : history g earlier (steps ++ [s]) =
    history g earlier steps ++ [s.entry (run g steps).state (earlier ++ (run g steps).calls)] := by
  induction steps generalizing g earlier with
  | nil =>
    show [s.entry g earlier] = [s.entry g (earlier ++ [])]
    rw [List.append_nil]
  | cons s' rest ih =>
    show s'.entry g earlier :: history _ _ (rest ++ [s]) = _
    rw [ih, List.append_assoc]
    rfl

end

/-! ### changes -/

structure Change where
  settings : Settings
  outcomes : Outcomes

def Change.step (c : Change) : Step := ⟨.applySettings c.settings, c.outcomes⟩

/-- What comes of changes, one after another, of a gate that is off. -/
def applied (cap : Nat) (cs : List Change) : Done Gate (List Reply) :=
  run (fresh cap) (cs.map Change.step)

def entries (cap : Nat) (cs : List Change) : List Entry :=
  history (fresh cap) [] (cs.map Change.step)

def Entry.asksOn (e : Entry) : Bool :=
  match e.operation with
  | .applySettings s => s.diagnostics = some true
  | _ => false

def Entry.succeeded (e : Entry) : Bool :=
  match e.reply with
  | .applied result => result.isOk
  | _ => false

/-- The change that made the client: of those since the flag was last off, the first that
succeeded. -/
def maker? (es : List Entry) : Option Entry := (es.rtakeWhile Entry.asksOn).find? Entry.succeeded

/-- The change made the client, from its own settings. -/
inductive Made : Option Entry → Option LiveClient → Prop
  | absent : Made none none
  | present {e : Entry} {s : Settings} {n : Nat} (ho : e.operation = .applySettings s)
    (hc : e.calls = [.create n s.clientConfig]) : Made (some e) (some ⟨n, s.clientConfig⟩)

section
variable {es : List Entry} {e : Entry}

theorem maker?_off (h : e.asksOn = false) : maker? (es ++ [e]) = none := by
  have hnot : ¬ e.asksOn = true := by rw [h]; decide
  rw [maker?, List.rtakeWhile_concat_neg _ _ _ hnot, List.find?_nil]

theorem maker?_on (h : e.asksOn = true) :
    maker? (es ++ [e]) = (maker? es).or (if e.succeeded then some e else none) := by
  rw [maker?, List.rtakeWhile_concat_pos _ _ _ h, List.find?_append, ← maker?, List.find?_singleton]

end

section
variable {g : Gate} {c : Change}

theorem asksOn_entry (c : Change) (g : Gate) (earlier : List ClientCall) :
    (c.step.entry g earlier).asksOn = c.settings.reports := by
  rw [Bool.eq_iff_iff, Settings.reports_eq_true]
  exact decide_eq_true_iff

theorem run_change (c : Change) (g : Gate) :
    (c.step.run g).answer =
        .applied
          (g.manager.setEnabled c.settings.reports c.settings.clientConfig c.outcomes).answer ∧
      (c.step.run g).state.manager =
        (g.manager.setEnabled c.settings.reports c.settings.clientConfig c.outcomes).state ∧
      (c.step.run g).state.cap = (if c.settings.bodyCap = 0 then g.cap else c.settings.bodyCap) ∧
      (c.step.run g).calls =
        (g.manager.setEnabled c.settings.reports c.settings.clientConfig c.outcomes).calls := by
  obtain ⟨ha, hs, hc⟩ := applySettings_eq g c.settings c.outcomes
  refine ⟨congrArg Reply.applied ha, ?_, ?_, hc⟩
  · show (g.applySettings c.settings c.outcomes).state.manager = _
    rw [hs]
  · show (g.applySettings c.settings c.outcomes).state.cap = _
    rw [hs]

theorem succeeded_entry (c : Change) (g : Gate) (earlier : List ClientCall) :
    (c.step.entry g earlier).succeeded =
      (g.manager.setEnabled c.settings.reports c.settings.clientConfig c.outcomes).answer.isOk := by
  show (match (c.step.run g).answer with | .applied r => r.isOk | _ => false) = _
  rw [(run_change c g).1]

theorem live_change_off (h : c.settings.reports = false) (g : Gate) :
    (c.step.run g).state.manager.live = none := by
  rw [(run_change c g).2.1, h]
  exact Manager.disable_live ..

/-- While there is a client, settings that ask for one change nothing but the cap. -/
theorem run_change_live (h : c.settings.reports = true) {client : LiveClient}
    (hl : g.manager.live = some client) : (c.step.run g).state.manager = g.manager := by
  rw [(run_change c g).2.1, h]
  show (g.manager.enable _ _).state = _
  rw [Manager.enable_of_live hl]

/-- While there is none, they make one unless that fails. -/
theorem made_of_none (h : c.settings.reports = true) (hl : g.manager.live = none)
    (earlier : List ClientCall) :
    Made (if (c.step.entry g earlier).succeeded then some (c.step.entry g earlier) else none)
      (c.step.run g).state.manager.live := by
  obtain ⟨_, hs, _, hcalls⟩ := run_change c g
  have hok := succeeded_entry c g earlier
  rw [h] at hs hcalls hok
  change _ = (g.manager.enable c.settings.clientConfig c.outcomes).state at hs
  change _ = (g.manager.enable c.settings.clientConfig c.outcomes).calls at hcalls
  change _ = (g.manager.enable c.settings.clientConfig c.outcomes).answer.isOk at hok
  cases hcreate : c.outcomes.create c.settings.clientConfig with
  | some reason =>
    rw [Manager.enable_of_refused hl hcreate] at hs hok
    rw [hok, hs, hl]
    exact .absent
  | none =>
    rw [Manager.enable_of_made hl hcreate] at hs hcalls hok
    rw [hok, hs]
    exact .present rfl hcalls

theorem Made.live_eq_none (h : Made none g.manager.live) : g.manager.live = none := by
  cases hl : g.manager.live with
  | none => rfl
  | some client => rw [hl] at h; cases h

theorem Made.exists_live {e : Entry} (h : Made (some e) g.manager.live) :
    ∃ client, g.manager.live = some client := by
  cases hl : g.manager.live with
  | none => rw [hl] at h; cases h
  | some client => exact ⟨client, rfl⟩

/-- One more change ends the client, makes it, or has nothing to do with who made it. -/
theorem Made.change {es : List Entry} (h : Made (maker? es) g.manager.live) (c : Change)
    (earlier : List ClientCall) :
    Made (maker? (es ++ [c.step.entry g earlier])) (c.step.run g).state.manager.live := by
  cases hr : c.settings.reports with
  | false =>
    rw [maker?_off ((asksOn_entry c g earlier).trans hr), live_change_off hr]
    exact .absent
  | true =>
    rw [maker?_on ((asksOn_entry c g earlier).trans hr)]
    cases hm : maker? es with
    | some e =>
      rw [hm] at h
      obtain ⟨client, hl⟩ := h.exists_live
      rw [run_change_live hr hl, Option.some_or]
      exact h
    | none =>
      rw [hm] at h
      rw [Option.none_or]
      exact made_of_none hr h.live_eq_none earlier

end

/-! ### after any changes -/

/-- The last cap that is not zero. -/
def lastCap (cap : Nat) (cs : List Change) : Nat :=
  ((cs.map fun c => c.settings.bodyCap).filter (· ≠ 0)).getLastD cap

theorem lastCap_concat (cap : Nat) (cs : List Change) (c : Change) :
    lastCap cap (cs ++ [c]) =
      if c.settings.bodyCap = 0 then lastCap cap cs else c.settings.bodyCap := by
  unfold lastCap
  rw [List.map_append, List.filter_append]
  by_cases h : c.settings.bodyCap = 0
  · rw [if_pos h, List.map_singleton, List.filter_cons_of_neg (by simp [h]), List.filter_nil,
      List.append_nil]
  · rw [if_neg h, List.map_singleton, List.filter_cons_of_pos (by simp [h]), List.filter_nil,
      List.getLastD_concat]

theorem applied_concat (cap : Nat) (cs : List Change) (c : Change) :
    (applied cap (cs ++ [c])).state = (c.step.run (applied cap cs).state).state := by
  unfold applied
  rw [List.map_append]
  exact run_concat_state ..

theorem applied_cap (cap : Nat) (cs : List Change) :
    (applied cap cs).state.cap = lastCap cap cs := by
  induction cs using List.reverseRecOn with
  | nil => rfl
  | append_singleton cs c ih =>
    rw [applied_concat, lastCap_concat, (run_change c _).2.2.1, ih]

theorem made_applied (cap : Nat) (cs : List Change) :
    Made (maker? (entries cap cs)) (applied cap cs).state.manager.live := by
  induction cs using List.reverseRecOn with
  | nil => exact .absent
  | append_singleton cs c ih =>
    have hentries : entries cap (cs ++ [c]) =
        entries cap cs ++ [c.step.entry (applied cap cs).state ([] ++ (applied cap cs).calls)] := by
      unfold entries applied
      rw [List.map_append]
      exact history_concat ..
    rw [hentries, applied_concat]
    exact ih.change c _

/-- What settings come to, however clients are made and closed. -/
structure InForce (initial : Nat) (cs : List Change) : Prop where
  /-- also settings that could not be applied set the cap -/
  cap : (applied initial cs).state.cap = lastCap initial cs
  /-- if no change made a client, there is none -/
  absent : maker? (entries initial cs) = none →
    (applied initial cs).state.manager.status = ⟨false, none, none⟩
  /-- what is shown are the settings of the change that made the client, whatever came later -/
  present : ∀ e, maker? (entries initial cs) = some e → ∃ s n,
    e.operation = .applySettings s ∧ e.calls = [.create n s.clientConfig] ∧
      (applied initial cs).state.manager.live = some ⟨n, s.clientConfig⟩ ∧
      (applied initial cs).state.manager.status =
        ⟨true, some s.sink.dataplaneUrl, some s.host.diagnosticId⟩
  /-- settings whose flag is off or missing switch reporting off -/
  off : ∀ c : Change, c.settings.diagnostics ≠ some true →
    (applied initial (cs ++ [c])).state.manager.isEnabled = false
  /-- settings whose flag is on leave it on or make a client -/
  on : ∀ c : Change, c.settings.diagnostics = some true →
    ((applied initial (cs ++ [c])).state.manager.isEnabled = true ↔
      (applied initial cs).state.manager.isEnabled = true ∨
        c.outcomes.create c.settings.clientConfig = none)

theorem isEnabled_change {c : Change} (h : c.settings.reports = true) (g : Gate) :
    (c.step.run g).state.manager.isEnabled = true ↔
      g.manager.isEnabled = true ∨ c.outcomes.create c.settings.clientConfig = none := by
  rw [(run_change c g).2.1, h]
  show (g.manager.enable _ _).state.isEnabled = true ↔ _
  cases hl : g.manager.live with
  | some client =>
    rw [Manager.enable_of_live hl]
    have hon := Gate.isEnabled_of_live hl
    exact iff_of_true hon (.inl hon)
  | none =>
    have hoff : ¬ g.manager.isEnabled = true := by
      rw [Manager.isEnabled, hl]
      decide
    cases hc : c.outcomes.create c.settings.clientConfig with
    | some reason =>
      rw [Manager.enable_of_refused hl hc]
      exact iff_of_false hoff (not_or.mpr ⟨hoff, Option.some_ne_none reason⟩)
    | none =>
      rw [Manager.enable_of_made hl hc]
      exact iff_of_true rfl (.inr rfl)

/-- **However settings change, the cap is the last one that is not zero, and the client is the one
that was made first since the flag was last off.** -/
theorem inForce (initial : Nat) (cs : List Change) : InForce initial cs := by
  have hmade := made_applied initial cs
  constructor
  · exact applied_cap initial cs
  · intro hm
    rw [hm] at hmade
    rw [Manager.status, hmade.live_eq_none]
  · intro e hm
    rw [hm] at hmade
    obtain ⟨client, hl⟩ := hmade.exists_live
    rw [hl] at hmade
    cases hmade with
    | present ho hc => exact ⟨_, _, ho, hc, hl, by rw [Manager.status, hl]; rfl⟩
  · intro c hc
    have hr : c.settings.reports = false := by
      rw [← Bool.not_eq_true, Settings.reports_eq_true]
      exact hc
    rw [applied_concat, Manager.isEnabled, live_change_off hr]
    rfl
  · intro c hc
    rw [applied_concat]
    exact isEnabled_change (Settings.reports_eq_true.mpr hc) _

/-- A change that fails sets the cap, and settings that come later do not show. -/
example :
    let refused : Outcomes := ⟨fun _ => some (.creation "create failed"), none, none⟩
    let made : Outcomes := ⟨fun _ => none, none, none⟩
    let on (url : String) (bodyCap : Nat) : Settings :=
      { diagnostics := some true, bodyCap, sink := { dataplaneUrl := url } }
    let gate := (applied 25 [⟨on "a" 7, refused⟩, ⟨on "b" 0, made⟩, ⟨on "c" 0, made⟩]).state
    gate.cap = 7 ∧ gate.manager.status = ⟨true, some "b", some ""⟩ := by
  decide

end Session

end TelemetryGate
