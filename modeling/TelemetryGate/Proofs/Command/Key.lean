import Mathlib.Data.List.Forall2
import TelemetryGate.Proofs.Calls
import TelemetryGate.Proofs.Session.Program
import TelemetryGate.Proofs.Settings.Shown

/-!
# The key is not seen

Two jobs whose settings differ in the key alone, each with a gate of its own: whatever is asked of
both, nothing tells one from the other but the key that a client is made with.

In which order modules are shown is no matter of the settings, and need not be the same for both.

* `withKey`, `masked`     the same with another key, and with none;
* `Outcomes.Alike`        clients that do not tell one key from another;
* `Done.Same`             what is done at both gates is the same but for the key;
* `Manager.enable_same`, `Gate.handle_same`, …   so it is with each operation;
* `Job.Act`, `Job.run`    commands, submissions and looks at the status, one after another;
* `Relisted`              texts that name levels in another order;
* `Job.run_visiting`      nothing else comes of another order of modules;
* `Job.Unseen`, `unseen`  nothing of them shows the key.
-/

namespace TelemetryGate

/-! ### other keys -/

def ClientConfig.withKey (key : String) (c : ClientConfig) : ClientConfig :=
  { c with writeKey := key }

def Settings.withKey (key : String) (s : Settings) : Settings :=
  { s with sink := { s.sink with writeKey := key } }

def LiveClient.masked (c : LiveClient) : LiveClient := { c with config := c.config.withKey "" }

def Manager.masked (m : Manager) : Manager := { m with live := m.live.map LiveClient.masked }

def Gate.masked (g : Gate) : Gate := { g with manager := g.manager.masked }

def ClientCall.masked : ClientCall → ClientCall
  | create n config => create n (config.withKey "")
  | c => c

theorem ClientCall.handed_masked (c : ClientCall) : c.masked.handed = c.handed := by
  cases c <;> rfl

/-- Things turn out alike, and whether a client is made does not depend on the key, as long as it is
not blank. -/
structure Outcomes.Alike (o o' : Outcomes) : Prop where
  create : ∀ (c : ClientConfig) (k k' : String), Text.isBlankText k = false →
    Text.isBlankText k' = false → o.create (c.withKey k) = o'.create (c.withKey k')
  track : o.track = o'.track
  close : o.close = o'.close

/-- A client that checks what it is made from does not tell keys apart. -/
theorem Outcomes.good_alike : Outcomes.good.Alike Outcomes.good := by
  refine ⟨fun c k k' hk hk' => ?_, rfl, rfl⟩
  have hvalid : (c.withKey k).validate = (c.withKey k').validate := by
    unfold ClientConfig.validate ClientConfig.withKey
    simp only [hk, hk']
  unfold Outcomes.good
  dsimp only
  rw [hvalid]

/-! ### the same but for the key -/

namespace Done

variable {σ τ α β : Type}

/-- The same answer and records, and states and calls that differ in keys alone. -/
structure Same (mask : σ → σ) (d d' : Done σ α) : Prop where
  answer : d.answer = d'.answer
  state : mask d.state = mask d'.state
  calls : d.calls.map ClientCall.masked = d'.calls.map ClientCall.masked
  log : d.log = d'.log

namespace Same

variable {mask : σ → σ} {mask' : τ → τ} {d d' : Done σ α}

theorem of_state {s s' : σ} (a : α) (log : List LogRecord) (h : mask s = mask s') :
    Same mask { answer := a, state := s, log } { answer := a, state := s', log } :=
  ⟨rfl, h, rfl, rfl⟩

theorem map (f : α → β) (h : Same mask d d') : Same mask (d.map f) (d'.map f) :=
  ⟨congrArg f h.answer, h.state, h.calls, h.log⟩

theorem lift {f f' : σ → τ} (hf : ∀ s s', mask s = mask s' → mask' (f s) = mask' (f' s'))
    (h : Same mask d d') : Same mask' (d.lift f) (d'.lift f') :=
  ⟨h.answer, hf _ _ h.state, h.calls, h.log⟩

theorem after (log : List LogRecord) (h : Same mask d d') :
    Same mask (d.after log) (d'.after log) :=
  ⟨h.answer, h.state, h.calls, congrArg (log ++ ·) h.log⟩

theorem andThen {next next' : α → σ → Done σ β} (h : Same mask d d')
    (hnext : ∀ a s s', mask s = mask s' → Same mask (next a s) (next' a s')) :
    Same mask (d.andThen next) (d'.andThen next') := by
  have hthen := hnext d'.answer d.state d'.state h.state
  unfold Done.andThen
  rw [h.answer]
  refine ⟨hthen.answer, hthen.state, ?_, ?_⟩
  · show (d.calls ++ _).map _ = (d'.calls ++ _).map _
    rw [List.map_append, List.map_append, h.calls, hthen.calls]
  · show d.log ++ _ = d'.log ++ _
    rw [h.log, hthen.log]

end Same

end Done

open Done (Same)

/-! ### the manager -/

namespace Manager

variable {m m' : Manager} {o o' : Outcomes}

theorem status_masked (m : Manager) : m.masked.status = m.status := by
  obtain ⟨live, created⟩ := m
  cases live <;> rfl

theorem isEnabled_masked (m : Manager) : m.masked.isEnabled = m.isEnabled := by
  obtain ⟨live, created⟩ := m
  cases live <;> rfl

theorem isEnabled_eq (h : m.masked = m'.masked) : m.isEnabled = m'.isEnabled := by
  rw [← isEnabled_masked m, h, isEnabled_masked]

/-- Both have a client of one number, or neither has one. -/
theorem live_cases (h : m.masked = m'.masked) :
    (m.live = none ∧ m'.live = none) ∨
      ∃ c c', m.live = some c ∧ m'.live = some c' ∧ c.number = c'.number := by
  have hlive : m.live.map LiveClient.masked = m'.live.map LiveClient.masked :=
    congrArg Manager.live h
  cases hl : m.live with
  | none =>
    rw [hl] at hlive
    exact .inl ⟨rfl, Option.map_eq_none_iff.mp hlive.symm⟩
  | some c =>
    rw [hl] at hlive
    obtain ⟨c', hl', hmask⟩ := Option.map_eq_some_iff.mp hlive.symm
    have hnumber : c.masked.number = c'.masked.number := congrArg LiveClient.number hmask.symm
    exact .inr ⟨c, c', rfl, hl', hnumber⟩

theorem created_eq (h : m.masked = m'.masked) : m.created = m'.created := by
  have hcreated : m.masked.created = m'.masked.created := congrArg Manager.created h
  exact hcreated

theorem off_masked (h : m.masked = m'.masked) :
    ({ m with live := none } : Manager).masked = ({ m' with live := none } : Manager).masked := by
  rw [created_eq h]

theorem enable_same (h : m.masked = m'.masked) (ho : o.Alike o') (c : ClientConfig)
    {k k' : String} (hk : Text.isBlankText k = false) (hk' : Text.isBlankText k' = false) :
    Same masked (m.enable (c.withKey k) o) (m'.enable (c.withKey k') o') := by
  have hcreate := ho.create c k k' hk hk'
  rcases live_cases h with ⟨hl, hl'⟩ | ⟨client, client', hl, hl', _⟩
  · cases hc : o'.create (c.withKey k') with
    | some reason =>
      rw [enable_of_refused hl (hcreate.trans hc), enable_of_refused hl' hc]
      exact .of_state _ _ h
    | none =>
      rw [enable_of_made hl (hcreate.trans hc), enable_of_made hl' hc, created_eq h]
      exact ⟨rfl, rfl, rfl, rfl⟩
  · rw [enable_of_live hl, enable_of_live hl']
    exact .of_state _ _ h

theorem disable_same (h : m.masked = m'.masked) (ho : o.Alike o') :
    Same masked (m.disable o) (m'.disable o') := by
  rcases live_cases h with ⟨hl, hl'⟩ | ⟨client, client', hl, hl', hnumber⟩
  · rw [disable_of_none hl, disable_of_none hl']
    exact .of_state _ _ h
  · rw [disable_of_live hl, disable_of_live hl', ho.close, hnumber]
    exact ⟨rfl, off_masked h, rfl, rfl⟩

theorem track_same (h : m.masked = m'.masked) (ho : o.Alike o') (event : String)
    (props : Properties) : Same masked (m.track event props o) (m'.track event props o') := by
  rcases live_cases h with ⟨hl, hl'⟩ | ⟨client, client', hl, hl', hnumber⟩
  · rw [track_of_none hl, track_of_none hl']
    exact .of_state _ _ h
  · unfold track
    rw [hl, hl', ho.track]
    refine ⟨rfl, h, ?_, rfl⟩
    show [ClientCall.track client.number event props o'.track] = [.track client'.number _ _ _]
    rw [hnumber]

end Manager

/-! ### the gate -/

namespace Gate

variable {g g' : Gate} {o o' : Outcomes}

theorem manager_eq (h : g.masked = g'.masked) : g.manager.masked = g'.manager.masked :=
  congrArg Gate.manager h

theorem cap_eq (h : g.masked = g'.masked) : g.cap = g'.cap := by
  have hcap : g.masked.cap = g'.masked.cap := congrArg Gate.cap h
  exact hcap

theorem status_eq (h : g.masked = g'.masked) : g.manager.status = g'.manager.status := by
  rw [← g.manager.status_masked, ← g'.manager.status_masked]
  exact congrArg Manager.status (manager_eq h)

theorem onManager_same {α : Type} {f f' : Manager → Done Manager α} (h : g.masked = g'.masked)
    (hf : Same Manager.masked (f g.manager) (f' g'.manager)) :
    Same masked (g.onManager f) (g'.onManager f') := by
  refine hf.lift fun m m' hm => ?_
  show Gate.mk m.masked g.cap = Gate.mk m'.masked g'.cap
  rw [hm, cap_eq h]

theorem submit_same (h : g.masked = g'.masked) (ho : o.Alike o') (r : TrackRequest)
    (actor : String) : Same masked (g.submit r actor o) (g'.submit r actor o') := by
  have hm := manager_eq h
  unfold submit
  rw [Manager.isEnabled_eq hm]
  by_cases hon : g'.manager.isEnabled = true
  · by_cases hevent : Registry.isClientEvent r.event = true
    · by_cases hclient : Registry.isClientType r.clientType = true
      · simp only [hon, hevent, hclient, Bool.not_true, Bool.false_eq_true, if_false]
        exact ((onManager_same h (Manager.track_same hm ho _ _)).after _).map _
      · simp only [hon, hevent, hclient, Bool.not_true, Bool.false_eq_true, if_false,
          Bool.not_false, if_true]
        exact .of_state _ _ h
    · simp only [hon, hevent, Bool.not_true, Bool.false_eq_true, if_false, Bool.not_false, if_true]
      exact .of_state _ _ h
  · simp only [hon, Bool.not_false, if_true]
    exact .of_state _ _ h

theorem ingest_same (h : g.masked = g'.masked) (ho : o.Alike o') (body : Body) (actor : String) :
    Same masked (g.ingest body actor o) (g'.ingest body actor o') := by
  have hm := manager_eq h
  rw [ingest_eq, ingest_eq, Manager.isEnabled_eq hm, cap_eq h]
  by_cases hon : g'.manager.isEnabled = true
  · simp only [hon, Bool.not_true, Bool.false_eq_true, if_false]
    cases readRequest g'.cap body with
    | error f => exact .of_state _ _ h
    | ok r => exact submit_same h ho r actor
  · simp only [hon, Bool.not_false, if_true]
    exact .of_state _ _ h

theorem handle_same (h : g.masked = g'.masked) (ho : o.Alike o') (body : Body) (actor : String) :
    Same masked (g.handle body actor o) (g'.handle body actor o') :=
  (ingest_same h ho body actor).andThen fun _ _ _ hs => .of_state _ _ hs

theorem applySettings_same (h : g.masked = g'.masked) (ho : o.Alike o') (s : Settings)
    {k k' : String} (hk : Text.isBlankText k = false) (hk' : Text.isBlankText k' = false) :
    Same masked (g.applySettings (s.withKey k) o) (g'.applySettings (s.withKey k') o') := by
  have hm := manager_eq h
  have htoggle : Same Manager.masked
      (g.manager.setEnabled (s.withKey k).reports (s.withKey k).clientConfig o)
      (g'.manager.setEnabled (s.withKey k').reports (s.withKey k').clientConfig o') := by
    show Same _ (g.manager.setEnabled s.reports (s.clientConfig.withKey k) o)
      (g'.manager.setEnabled s.reports (s.clientConfig.withKey k') o')
    unfold Manager.setEnabled
    cases s.reports with
    | true => exact Manager.enable_same hm ho s.clientConfig hk hk'
    | false => exact Manager.disable_same hm ho
  unfold applySettings
  show Same _ (if s.bodyCap = 0 then _ else _) (if s.bodyCap = 0 then _ else _)
  by_cases hzero : s.bodyCap = 0
  · rw [if_pos hzero, if_pos hzero, cap_eq h]
    exact (onManager_same h htoggle).after _
  · rw [if_neg hzero, if_neg hzero]
    refine onManager_same ?_ htoggle
    exact congrArg (Gate.mk · s.bodyCap) hm

end Gate

/-! ### the settings -/

namespace Settings

variable {k k' : String}

theorem problems_withKey (s : Settings) (hk : Text.isBlankText k = false)
    (hk' : Text.isBlankText k' = false) :
    Command.problems? (s.withKey k) = Command.problems? (s.withKey k') := by
  have hproblems : (s.withKey k).problems = (s.withKey k').problems := by
    unfold problems withKey reports
    simp only [hk, hk']
  unfold Command.problems?
  rw [hproblems]

theorem redacted_withKey (s : Settings) (hk : Text.isBlankText k = false) :
    (s.withKey k).redacted = s.withKey mask := by
  refine if_neg fun hempty => ?_
  have hblank : Text.isBlankText k = true := by
    rw [show k = "" from hempty]
    rfl
  rw [hk] at hblank
  cases hblank

theorem shown_withKey (s : Settings) (hk : Text.isBlankText k = false)
    (hk' : Text.isBlankText k' = false) (t : Members.Traversal String) :
    (s.withKey k).shown t = (s.withKey k').shown t := by
  rw [shown, shown, redacted_withKey s hk, redacted_withKey s hk']

end Settings

/-! ### commands -/

namespace Command

/-- The same for every submission. -/
abbrev EachAlike (each each' : Nat → Outcomes) : Prop := ∀ n, (each n).Alike (each' n)

variable {each each' : Nat → Outcomes} {g g' : Gate}

theorem submitLines_same (he : EachAlike each each') (user : String) (acc : List Response)
    (h : g.masked = g'.masked) (ls : List (List UInt8)) :
    Same Gate.masked (submitLines user each acc g ls) (submitLines user each' acc g' ls) := by
  induction ls generalizing acc g g' with
  | nil => exact .of_state _ _ h
  | cons line rest ih =>
    unfold submitLines
    cases Utf8.decode? line with
    | none => exact .of_state _ _ h
    | some text =>
      show Same _ (if Text.isBlankText text then _ else _) (if Text.isBlankText text then _ else _)
      by_cases hblank : Text.isBlankText text = true
      · rw [if_pos hblank, if_pos hblank]
        exact ih acc h
      · rw [if_neg hblank, if_neg hblank]
        exact (Gate.handle_same h (he acc.length) (.whole line) user).andThen
          fun response _ _ hs => ih (response :: acc) hs

theorem replay_same (he : EachAlike each each') (feed : Feed) (user : String)
    (h : g.masked = g'.masked) :
    Same Gate.masked (replay feed user each g) (replay feed user each' g') := by
  refine (submitLines_same he user [] h feed.lines).andThen fun result s s' hs => ?_
  cases result with
  | error e => exact .of_state _ _ hs
  | ok responses =>
    dsimp only
    cases feed.failure <;> exact .of_state _ _ hs

end Command

namespace Job

variable {g g' : Gate} {o o' : Outcomes} {each each' : Nat → Outcomes} {k k' : String}

section
variable (s : Settings) (config config' : Option Path) (h : g.masked = g'.masked)
  (ho : o.Alike o') (hk : Text.isBlankText k = false) (hk' : Text.isBlankText k' = false)
include h ho hk hk'

theorem applySettings_same :
    Same Gate.masked (applySettings ⟨s.withKey k, config⟩ o g)
      (applySettings ⟨s.withKey k', config'⟩ o' g') := by
  unfold applySettings
  rw [s.problems_withKey hk hk']
  cases Command.problems? (s.withKey k') with
  | some problems => exact .of_state _ _ h
  | none => exact (Gate.applySettings_same h ho s hk hk').map _

theorem status_same (format : String) :
    Same Gate.masked (status ⟨s.withKey k, config⟩ format o g)
      (status ⟨s.withKey k', config'⟩ format o' g') := by
  refine (applySettings_same s config config' h ho hk hk').andThen fun result t t' ht => ?_
  cases result with
  | error e => exact .of_state _ _ ht
  | ok _ =>
    show Same _ { answer := _, state := t } { answer := _, state := t' }
    rw [Gate.status_eq ht]
    exact .of_state _ _ ht

theorem track_same (he : Command.EachAlike each each') (around : Surroundings)
    (outside : List UInt8) (user : String) (input : Option Path) :
    Same Gate.masked (track ⟨s.withKey k, config⟩ around outside user input o each g)
      (track ⟨s.withKey k', config'⟩ around outside user input o' each' g') := by
  refine (applySettings_same s config config' h ho hk hk').andThen fun result t t' ht => ?_
  cases result with
  | error e => exact .of_state _ _ ht
  | ok _ =>
    dsimp only
    cases openInput around outside input with
    | error e => exact .of_state _ _ ht
    | ok feed =>
      refine (Command.replay_same he feed user ht).andThen fun result u u' hu => ?_
      exact (Gate.onManager_same hu (Manager.disable_same (Gate.manager_eq hu) ho)).map _

end

/-! ### one after another -/

/-- What is asked of a job and of its gate. -/
inductive Act where
  | carryOut (c : Command) (around : Surroundings) (outside : List UInt8)
  | handle (body : Body) (actor : String)
  | status

inductive Reply where
  | shown (result : Except HostError Shown)
  | answered (r : Response)
  | status (s : Status)

/-- What is asked, and how things turn out while it is done and with every submission of it. -/
structure Step where
  act : Act
  outcomes : Outcomes
  each : Nat → Outcomes

def Step.run (j : Job) (t : Step) (g : Gate) : Done Gate Reply :=
  match t.act with
  | .carryOut c around outside => (j.execute around outside t.outcomes c g t.each).map .shown
  | .handle body actor => (g.handle body actor t.outcomes).map .answered
  | .status => { answer := .status g.manager.status, state := g }

def run (j : Job) (g : Gate) : List Step → Done Gate (List Reply)
  | [] => { answer := [], state := g }
  | t :: rest => (t.run j g).andThen fun reply g => (j.run g rest).map (reply :: ·)

/-- The same act, with modules shown in another order. -/
def Act.visiting (order : Members.Traversal String) : Act → Act
  | .carryOut c around outside => .carryOut c { around with traversal := order } outside
  | a => a

/-- The same is asked, but not to watch, and things turn out alike. -/
structure Step.Alike (t t' : Step) : Prop where
  act : ∃ order, t'.act = t.act.visiting order
  unwatched : ∀ ms around outside, t.act ≠ .carryOut (.watch ms) around outside
  outcomes : t.outcomes.Alike t'.outcomes
  each : Command.EachAlike t.each t'.each

/-! ### the same, in the same order -/

theorem execute_same (s : Settings) (config config' : Option Path) (h : g.masked = g'.masked)
    (ho : o.Alike o') (he : Command.EachAlike each each') (hk : Text.isBlankText k = false)
    (hk' : Text.isBlankText k' = false) (c : Command) (hc : ∀ ms, c ≠ .watch ms)
    (around : Surroundings) (outside : List UInt8) :
    Same Gate.masked (execute ⟨s.withKey k, config⟩ around outside o c g each)
      (execute ⟨s.withKey k', config'⟩ around outside o' c g' each') := by
  cases c with
  | status format => exact (status_same s config config' h ho hk hk' format).map _
  | events => exact .of_state _ _ h
  | showSettings =>
    unfold execute
    dsimp only
    rw [s.shown_withKey hk hk']
    exact .of_state _ _ h
  | checkSettings =>
    unfold execute
    dsimp only
    rw [s.problems_withKey hk hk']
    exact .of_state _ _ h
  | track user input =>
    exact (track_same s config config' h ho hk hk' he around outside user input).map _
  | watch ms => exact absurd rfl (hc ms)

theorem Step.run_same {t t' : Step} (ht : t.Alike t') (hact : t.act = t'.act) (s : Settings)
    (config config' : Option Path) (h : g.masked = g'.masked) (hk : Text.isBlankText k = false)
    (hk' : Text.isBlankText k' = false) :
    Same Gate.masked (t.run ⟨s.withKey k, config⟩ g) (t'.run ⟨s.withKey k', config'⟩ g') := by
  obtain ⟨act, o, each⟩ := t
  obtain ⟨act', o', each'⟩ := t'
  obtain ⟨_, hwatch, ho, he⟩ := ht
  obtain rfl : act = act' := hact
  cases act with
  | carryOut c around outside =>
    have hc : ∀ ms, c ≠ .watch ms := by
      rintro ms rfl
      exact hwatch ms around outside rfl
    exact (execute_same s config config' h ho he hk hk' c hc around outside).map _
  | handle body actor => exact (Gate.handle_same h ho body actor).map _
  | status =>
    unfold Step.run
    dsimp only
    rw [Gate.status_eq h]
    exact .of_state _ _ h

theorem run_same {steps steps' : List Step} (hsteps : List.Forall₂ Step.Alike steps steps')
    (hacts : steps.map Step.act = steps'.map Step.act) (s : Settings)
    (config config' : Option Path) (h : g.masked = g'.masked) (hk : Text.isBlankText k = false)
    (hk' : Text.isBlankText k' = false) :
    Same Gate.masked (run ⟨s.withKey k, config⟩ g steps)
      (run ⟨s.withKey k', config'⟩ g' steps') := by
  induction hsteps generalizing g g' with
  | nil => exact .of_state _ _ h
  | cons ht _ ih =>
    obtain ⟨hact, hrest⟩ := List.cons.inj hacts
    exact (Step.run_same ht hact s config config' h hk hk').andThen
      fun _ _ _ hs => (ih hrest hs).map _

end Job

/-! ### modules in another order -/

/-- Two texts that end in lines with levels, the same ones in whatever order, and are the same
before these. -/
def Relisted (text text' : String) : Prop :=
  ∃ (front : List Char) (levels levels' : List (String × String)), levels.Perm levels' ∧
    text = String.ofList (front ++ Toml.writeSimple (levels.map fun m => (m.1, .text m.2))) ∧
    text' = String.ofList (front ++ Toml.writeSimple (levels'.map fun m => (m.1, .text m.2)))

namespace Settings

/-- Settings that are not shown in one order are not shown in another, and for the same reason. -/
theorem shown_relisted (c : Settings) (t t' : Members.Traversal String) :
    c.shown t = c.shown t' ∨
      ∃ text text', c.shown t = .ok text ∧ c.shown t' = .ok text' ∧ Relisted text text' := by
  by_cases hsigned : c.Signed
  · have hredacted := signed_redacted.mpr hsigned
    exact .inr ⟨_, _, shown_eq_ok.mpr ⟨hsigned, rfl⟩, shown_eq_ok.mpr ⟨hsigned, rfl⟩,
      c.redacted.front, t.visit c.redacted.logging.modules, t'.visit c.redacted.logging.modules,
      (t.perm _).trans (t'.perm _).symm, writeDocument_members hredacted,
      writeDocument_members hredacted⟩
  · have hnone : ∀ t, c.redacted.toToml? t = none := fun t => by
      refine Option.eq_none_iff_forall_ne_some.mpr fun ms htable => ?_
      exact hsigned (signed_redacted.mp (signed_of_toToml? htable))
    exact .inl (by rw [shown, shown, hnone, hnone])

end Settings

namespace Job

/-- The same reply, but that what is shown may name levels in another order. -/
inductive Reply.Alike : Reply → Reply → Prop where
  | same (r : Reply) : Alike r r
  | relisted {text text' : String} (h : Relisted text text') :
    Alike (.shown (.ok (.text text))) (.shown (.ok (.text text')))

def Step.visiting (order : Members.Traversal String) (t : Step) : Step :=
  { t with act := t.act.visiting order }

theorem Act.exists_visiting (a : Act) : ∃ order, a = a.visiting order := by
  cases a with
  | carryOut c around outside => exact ⟨around.traversal, rfl⟩
  | handle body actor => exact ⟨.byName, rfl⟩
  | status => exact ⟨.byName, rfl⟩

theorem track_visiting (j : Job) (around : Surroundings) (outside : List UInt8) (user : String)
    (input : Option Path) (o : Outcomes) (each : Nat → Outcomes) (g : Gate)
    (order : Members.Traversal String) :
    j.track { around with traversal := order } outside user input o each g =
      j.track around outside user input o each g := by
  have hinput : openInput { around with traversal := order } outside input =
      openInput around outside input := by
    cases input <;> rfl
  unfold track
  rw [hinput]

/-- In another order of modules one step replies alike, and nothing else comes of it. -/
theorem Step.run_visiting (j : Job) (g : Gate) (t : Step)
    (hwatch : ∀ ms around outside, t.act ≠ .carryOut (.watch ms) around outside)
    (order : Members.Traversal String) :
    ∃ r, (t.visiting order).run j g = { t.run j g with answer := r } ∧
      (t.run j g).answer.Alike r := by
  obtain ⟨act, o, each⟩ := t
  cases act with
  | handle body actor => exact ⟨_, rfl, .same _⟩
  | status => exact ⟨_, rfl, .same _⟩
  | carryOut c around outside =>
    cases c with
    | status format => exact ⟨_, rfl, .same _⟩
    | events => exact ⟨_, rfl, .same _⟩
    | checkSettings => exact ⟨_, rfl, .same _⟩
    | track user input =>
      refine ⟨_, ?_, .same _⟩
      unfold visiting run Act.visiting execute
      dsimp only
      rw [track_visiting]
    | watch ms => exact absurd rfl (hwatch ms around outside)
    | showSettings =>
      unfold visiting run Act.visiting execute Done.map
      dsimp only
      refine ⟨.shown ((j.settings.shown order).map .text), rfl, ?_⟩
      obtain hsame | ⟨text, text', htext, htext', hlisted⟩ :=
        j.settings.shown_relisted around.traversal order
      · rw [hsame]
        exact .same _
      · rw [htext, htext']
        exact .relisted hlisted

/-- Steps that are the same but for the order of modules. -/
def Step.Reordered (t t' : Step) : Prop :=
  (∀ ms around outside, t.act ≠ .carryOut (.watch ms) around outside) ∧
    ∃ order, t' = t.visiting order

theorem run_reordered (j : Job) {steps steps' : List Step}
    (h : List.Forall₂ Step.Reordered steps steps') (g : Gate) :
    ∃ rs, j.run g steps' = { j.run g steps with answer := rs } ∧
      List.Forall₂ Reply.Alike (j.run g steps).answer rs := by
  induction h generalizing g with
  | nil => exact ⟨[], rfl, .nil⟩
  | @cons t t' steps steps' ht _ ih =>
    obtain ⟨hwatch, order, rfl⟩ := ht
    obtain ⟨r, hstep, hr⟩ := t.run_visiting j g hwatch order
    obtain ⟨rs, hrest, hrs⟩ := ih (t.run j g).state
    refine ⟨r :: rs, ?_, .cons hr hrs⟩
    unfold run
    rw [hstep]
    unfold Done.andThen Done.map
    dsimp only
    rw [hrest]

/-- Between steps that are alike there are others, asked as the first and turning out as the
second. -/
theorem exists_between {steps steps' : List Step} (h : List.Forall₂ Step.Alike steps steps') :
    ∃ between, List.Forall₂ Step.Alike steps between ∧
      steps.map Step.act = between.map Step.act ∧
      List.Forall₂ Step.Reordered between steps' := by
  induction h with
  | nil => exact ⟨[], .nil, rfl, .nil⟩
  | @cons t t' steps steps' ht _ ih =>
    obtain ⟨between, halike, hacts, hreordered⟩ := ih
    obtain ⟨⟨order, hact⟩, hwatch, ho, he⟩ := ht
    refine ⟨{ t' with act := t.act } :: between, .cons ?_ halike, ?_, .cons ?_ hreordered⟩
    · exact ⟨t.act.exists_visiting, hwatch, ho, he⟩
    · rw [List.map_cons, List.map_cons, hacts]
    · refine ⟨hwatch, order, ?_⟩
      unfold Step.visiting
      rw [← hact]

/-! ### nothing shows the key -/

/-- What is done shows nothing of the key: answers are the same but for the order of modules, and
records, the status and what clients are handed are the same. -/
structure Unseen (d d' : Done Gate (List Reply)) : Prop where
  replies : List.Forall₂ Reply.Alike d.answer d'.answer
  status : d.state.manager.status = d'.state.manager.status
  handed : Calls.handed d.calls = Calls.handed d'.calls
  log : d.log = d'.log

/-- **Nothing shows the key: with settings that are the same but for a key that is not blank, the
same comes of the same commands and submissions. Where modules come in the same order the answers
are the same to the letter.** -/
theorem unseen {j j' : Job} (h : j.settings.withKey "" = j'.settings.withKey "")
    (hk : Text.isBlankText j.settings.sink.writeKey = false)
    (hk' : Text.isBlankText j'.settings.sink.writeKey = false) {steps steps' : List Step}
    (hsteps : List.Forall₂ Step.Alike steps steps') (cap : Nat) :
    Unseen (j.run (Session.fresh cap) steps) (j'.run (Session.fresh cap) steps') ∧
    (steps.map Step.act = steps'.map Step.act →
      (j.run (Session.fresh cap) steps).answer = (j'.run (Session.fresh cap) steps').answer) := by
  obtain ⟨s, config⟩ := j
  obtain ⟨s', config'⟩ := j'
  have hs' : (s'.withKey "").withKey s'.sink.writeKey = (s.withKey "").withKey s'.sink.writeKey :=
    congrArg (Settings.withKey s'.sink.writeKey) h.symm
  change s' = s.withKey s'.sink.writeKey at hs'
  have hsame : ∀ {steps'}, List.Forall₂ Step.Alike steps steps' →
      steps.map Step.act = steps'.map Step.act →
      Same Gate.masked (run ⟨s, config⟩ (Session.fresh cap) steps)
        (run ⟨s', config'⟩ (Session.fresh cap) steps') := fun hsteps hacts => by
    rw [hs']
    exact run_same hsteps hacts s config config' rfl hk hk'
  refine ⟨?_, fun hacts => (hsame hsteps hacts).answer⟩
  obtain ⟨between, halike, hacts, hreordered⟩ := exists_between hsteps
  obtain ⟨rs, hrun, hreplies⟩ := run_reordered ⟨s', config'⟩ hreordered (Session.fresh cap)
  have hbetween := hsame halike hacts
  rw [hrun]
  refine ⟨?_, Gate.status_eq hbetween.state,
    Calls.flatMap_of_map ClientCall.handed_masked hbetween.calls, hbetween.log⟩
  rw [hbetween.answer]
  exact hreplies

/-- A job that reports events, with a key and two modules. -/
def reporting (key : String) : Job where
  settings :=
    { diagnostics := some true
      sink := { writeKey := key, dataplaneUrl := "https://dp.example.com" }
      host := { diagnosticId := "diag" }
      logging := { modules := [("a", "off"), ("b", "warn")] } }

/-- An event is tracked, the status and the settings are shown, and an event is submitted. -/
def trackedAndShown (order : Members.Traversal String) : List Step :=
  let around : Surroundings := { files := { home := [] }, traversal := order }
  let event := Utf8.encode "\x7b\"event\":\"user_raise_hand\",\"clientType\":\"web\"\x7d"
  let good (act : Act) : Step := ⟨act, .good, fun _ => .good⟩
  [good (.carryOut (.track "u1" none) around event), good (.carryOut (.status "json") around []),
    good (.carryOut .showSettings around []), good (.handle (.whole event) "u2"), good .status]

theorem alike_trackedAndShown (order order' : Members.Traversal String) :
    List.Forall₂ Step.Alike (trackedAndShown order) (trackedAndShown order') := by
  have hgood : ∀ {act act' : Act}, act' = act.visiting order' →
      (∀ ms around outside, act ≠ .carryOut (.watch ms) around outside) →
      Step.Alike ⟨act, .good, fun _ => .good⟩ ⟨act', .good, fun _ => .good⟩ := fun hact hwatch =>
    ⟨⟨order', hact⟩, hwatch, Outcomes.good_alike, fun _ => Outcomes.good_alike⟩
  refine .cons (hgood rfl ?_) (.cons (hgood rfl ?_) (.cons (hgood rfl ?_) (.cons (hgood rfl ?_)
    (.cons (hgood rfl ?_) .nil))))
  all_goals exact fun _ _ _ e => nomatch e

/-- The key and the order of modules are others. -/
theorem unseen_twoKeys :
    (reporting "k").settings.withKey "" = (reporting "secret").settings.withKey "" ∧
      Text.isBlankText (reporting "k").settings.sink.writeKey = false ∧
      Text.isBlankText (reporting "secret").settings.sink.writeKey = false ∧
      List.Forall₂ Step.Alike (trackedAndShown .byName) (trackedAndShown .backwards) ∧
      (Calls.handed
        ((reporting "k").run (Session.fresh 25) (trackedAndShown .byName)).calls).length = 2 ∧
      Unseen ((reporting "k").run (Session.fresh 25) (trackedAndShown .byName))
        ((reporting "secret").run (Session.fresh 25) (trackedAndShown .backwards)) := by
  have hsame : (reporting "k").settings.withKey "" = (reporting "secret").settings.withKey "" := rfl
  have hk : Text.isBlankText (reporting "k").settings.sink.writeKey = false := by decide
  have hk' : Text.isBlankText (reporting "secret").settings.sink.writeKey = false := by decide
  exact ⟨hsame, hk, hk', alike_trackedAndShown _ _, by decide +kernel,
    (unseen hsame hk hk' (alike_trackedAndShown _ _) 25).1⟩

end Job

end TelemetryGate
