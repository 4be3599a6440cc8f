import Mathlib.Logic.Relation
import TelemetryGate.Proofs.Callers.Run
import TelemetryGate.Proofs.Visitors.Program

/-!
# Any number of visitors

Visitors go through their scripts in any order, each call of the manager at the grain of its locks;
loading and storing the cap waits for nothing.

* `Place`, `Move`      where a visitor stands, and what it does next;
* `Step`, `Reachable`  one move of one visitor, and the states that visitors come to;
* `Run`, `During`      a state on the way to another, while a visit was under way;
* `Seen`               something was so at such a state;
* `handed`             what a visitor handed to clients;
* `Run.taken`          a client that is gone was taken by a visitor who switched off.
-/

namespace TelemetryGate

def Callers.Act.handed : Callers.Act → List Handed
  | startTrack n event props => [⟨n, event, props⟩]
  | _ => []

namespace Visitors

open Callers (Call Answer Act Errand Stage Shared)
open Session (Operation)

variable {κ : Type}

/-! ### moves -/

/-- Where a visitor stands: inside, with what is left of its script and the stage of its first
call. -/
inductive Place where
  | outside
  | inside (script : Script) (stage : Stage)
  | gone (reply : Session.Reply)

inductive Move where
  | enter
  | call (act : Act)
  | back
  | load (cap : Nat)
  | store (cap : Nat)
  | leave (reply : Session.Reply)

/-- The moves of a visitor with a script. What it loads is not its own choice. -/
inductive Place.Next (script : Script) : Place → Move → Place → Prop
  | enter : Next script .outside .enter (.inside script .unborn)
  | call {c next a act b} (h : Stage.Next c a act b) :
    Next script (.inside (.call c next) a) (.call act) (.inside (.call c next) b)
  | back {c next answer} :
    Next script (.inside (.call c next) (.returned answer)) .back (.inside (next answer) .unborn)
  | load {next cap} :
    Next script (.inside (.load next) .unborn) (.load cap) (.inside (next cap) .unborn)
  | store {cap next} :
    Next script (.inside (.store cap next) .unborn) (.store cap) (.inside next .unborn)
  | leave {reply} : Next script (.inside (.done reply) .unborn) (.leave reply) (.gone reply)

/-- What visitors share, where each of them stands, and what was done so far by whom. -/
structure State (κ : Type) where
  shared : Shared κ := {}
  cap : Nat
  place : κ → Place := fun _ => .outside
  past : List (κ × Move) := []

def Move.Ready (s : State κ) : Move → Prop
  | call act => act.Ready s.shared
  | load cap => s.cap = cap
  | _ => True

section
variable [DecidableEq κ]

def Move.effect (k : κ) (s : Shared κ) : Move → Shared κ
  | call act => act.effect k s
  | _ => s

def Move.cap (before : Nat) : Move → Nat
  | store cap => cap
  | _ => before

def State.after (s : State κ) (k : κ) (m : Move) (p : Place) : State κ where
  shared := m.effect k s.shared
  cap := m.cap s.cap
  place := Function.update s.place k p
  past := s.past ++ [(k, m)]

theorem State.place_after_self (s : State κ) (k : κ) (m : Move) (p : Place) :
    (s.after k m p).place k = p :=
  Function.update_self ..

theorem State.place_after_of_ne (s : State κ) {j k : κ} (h : k ≠ j) (m : Move) (p : Place) :
    (s.after j m p).place k = s.place k :=
  Function.update_of_ne h ..

/-- One move of one visitor. -/
inductive Step (visits : κ → Session.Step) : State κ → State κ → Prop
  | move {s : State κ} {k : κ} {m : Move} {p : Place} (ready : m.Ready s)
    (next : Place.Next (script (visits k).operation (visits k).outcomes) (s.place k) m p) :
    Step visits s (s.after k m p)

/-- The states that visitors come to, from a gate that is off, whatever its cap. -/
inductive Reachable (visits : κ → Session.Step) : State κ → Prop
  | start (cap : Nat) : Reachable visits { cap }
  | step {s t : State κ} (h : Reachable visits s) (step : Step visits s t) : Reachable visits t

def Run (visits : κ → Session.Step) : State κ → State κ → Prop :=
  Relation.ReflTransGen (Step visits)

variable {visits : κ → Session.Step} {s t u : State κ} {k : κ}

theorem Reachable.move (h : Reachable visits s) (k : κ) {m : Move} {p : Place}
    (next : Place.Next (script (visits k).operation (visits k).outcomes) (s.place k) m p)
    (ready : m.Ready s) : Reachable visits (s.after k m p) :=
  h.step (.move ready next)

theorem Reachable.run (hr : Reachable visits t) (h : Run visits t s) : Reachable visits s := by
  induction h with
  | refl => exact hr
  | tail _ st ih => exact ih.step st

theorem Step.past (h : Step visits s t) : ∃ e, t.past = s.past ++ [e] := by
  cases h with
  | @move k m p _ _ => exact ⟨(k, m), rfl⟩

theorem Run.past (h : Run visits t s) : t.past <+: s.past := by
  induction h with
  | refl => exact List.prefix_rfl
  | tail _ st ih =>
    obtain ⟨e, he⟩ := st.past
    rw [he]
    exact ih.trans (List.prefix_append _ [e])

/-! ### visits -/

/-- A visit has begun and not ended. -/
def UnderWay (k : κ) (past : List (κ × Move)) : Prop :=
  (k, .enter) ∈ past ∧ ∀ reply, (k, .leave reply) ∉ past

theorem Reachable.entered (h : Reachable visits s) (hk : s.place k ≠ .outside) :
    (k, .enter) ∈ s.past := by
  induction h with
  | start cap => exact absurd rfl hk
  | @step s _ _ st ih =>
    cases st with
    | @move j m p _ next =>
      by_cases e : k = j
      · subst e
        by_cases ho : s.place k = .outside
        · rw [ho] at next
          cases next
          exact List.mem_append_right _ (List.mem_singleton_self _)
        · exact List.mem_append_left _ (ih ho)
      · rw [State.place_after_of_ne s e] at hk
        exact List.mem_append_left _ (ih hk)

theorem Reachable.left (h : Reachable visits s) {reply : Session.Reply}
    (hl : (k, .leave reply) ∈ s.past) : s.place k = .gone reply := by
  induction h with
  | start cap => cases hl
  | @step s _ _ st ih =>
    cases st with
    | @move j m p _ next =>
      rcases List.mem_append.mp hl with hl | hl
      · have hgone := ih hl
        by_cases e : k = j
        · subst e
          rw [hgone] at next
          cases next
        · rw [State.place_after_of_ne s e, hgone]
      · cases List.mem_singleton.mp hl
        rw [State.place_after_self]
        generalize s.place k = a at next
        cases next
        rfl

theorem Reachable.underWay (h : Reachable visits s) {script : Script} {stage : Stage}
    (hk : s.place k = .inside script stage) : UnderWay k s.past := by
  refine ⟨h.entered fun e => ?_, fun reply hl => ?_⟩
  · rw [hk] at e
    cases e
  · have hgone := h.left hl
    rw [hk] at hgone
    cases hgone

/-- A state on the way to `s`, while the visit was under way. -/
structure During (visits : κ → Session.Step) (k : κ) (s t : State κ) : Prop where
  reachable : Reachable visits t
  run : Run visits t s
  underWay : UnderWay k t.past

/-- Something was so at a state on the way, while the visit was under way. -/
def Seen (visits : κ → Session.Step) (k : κ) (P : State κ → Prop) (s : State κ) : Prop :=
  ∃ t, During visits k s t ∧ P t

variable {P Q : State κ → Prop}

theorem Seen.keep (h : Seen visits k P s) (st : Step visits s u) : Seen visits k P u := by
  obtain ⟨t, ht, hp⟩ := h
  exact ⟨t, ⟨ht.reachable, ht.run.tail st, ht.underWay⟩, hp⟩

theorem Seen.now (hr : Reachable visits s) {script : Script} {stage : Stage}
    (hk : s.place k = .inside script stage) (hp : P s) (st : Step visits s u) :
    Seen visits k P u :=
  ⟨s, ⟨hr, .single st, hr.underWay hk⟩, hp⟩

/-! ### what was handed over -/

def Move.handed : Move → List Handed
  | call act => act.handed
  | _ => []

/-- What a visitor began to hand to clients, in order. -/
def handed (k : κ) (past : List (κ × Move)) : List Handed :=
  past.flatMap fun e => if e.1 = k then e.2.handed else []

theorem handed_snoc_self (k : κ) (past : List (κ × Move)) (m : Move) :
    handed k (past ++ [(k, m)]) = handed k past ++ m.handed := by
  rw [handed, List.flatMap_append, List.flatMap_singleton, if_pos rfl]
  rfl

theorem handed_snoc_of_ne {j : κ} (h : j ≠ k) (past : List (κ × Move)) (m : Move) :
    handed k (past ++ [(j, m)]) = handed k past := by
  rw [handed, List.flatMap_append, List.flatMap_singleton, if_neg h, List.append_nil]
  rfl

/-! ### who takes a client -/

/-- No call of the script comes to switching off. -/
def Script.Gentle : Script → Prop
  | done _ => True
  | call c next => c.request.errand ≠ .off ∧ ∀ answer, (next answer).Gentle
  | load next => ∀ cap, (next cap).Gentle
  | store _ next => next.Gentle

section
variable {o : Outcomes} {reply : Except Rejection String → Session.Reply}

theorem gentle_submit (r : TrackRequest) (actor : String) (o : Outcomes)
    (reply : Except Rejection String → Session.Reply) : (Script.submit r actor o reply).Gentle := by
  refine ⟨(fun e => nomatch e), fun answer => ?_⟩
  unfold Script.afterSecondLook
  split
  · cases r.fault? with
    | some reason => trivial
    | none => exact ⟨(fun e => nomatch e), fun _ => trivial⟩
  · trivial

theorem gentle_ingest (body : Body) (actor : String) (o : Outcomes)
    (reply : Except Rejection String → Session.Reply) :
    (Script.ingest body actor o reply).Gentle := by
  refine ⟨(fun e => nomatch e), fun answer => ?_⟩
  unfold Script.afterFirstLook
  split
  · intro cap
    unfold Script.afterLoad
    cases Gate.readRequest cap body with
    | error f => trivial
    | ok r => exact gentle_submit r actor o reply
  · trivial

theorem gentle_applied (answer : Answer) : (Script.applied answer).Gentle := by
  cases answer <;> trivial

theorem gentle_script {op : Operation} (h : op.switchesOff = false) (o : Outcomes) :
    (script op o).Gentle := by
  cases op with
  | manage r =>
    refine ⟨fun e => ?_, fun _ => trivial⟩
    cases r with
    | disable => cases h
    | setEnabled on config =>
      cases on with
      | true => cases e
      | false => cases h
    | _ => cases e
  | applySettings s =>
    have hon : s.reports = true := by
      have hnot : (!s.reports) = false := h
      cases hr : s.reports with
      | true => rfl
      | false => rw [hr] at hnot; cases hnot
    have htoggle :
        (Script.call ⟨.setEnabled s.reports s.clientConfig, o⟩ Script.applied).Gentle := by
      rw [hon]
      exact ⟨(fun e => nomatch e), gentle_applied⟩
    show (if s.bodyCap = 0 then _ else _ : Script).Gentle
    split
    · exact fun _ => htoggle
    · exact htoggle
  | ingest body actor => exact gentle_ingest body actor o _
  | submit r actor => exact gentle_submit r actor o _
  | handle body actor => exact gentle_ingest body actor o _
  | setCap cap => trivial

end

/-- The stage belongs to the call that is made, and if the script does not switch off, what is left
of it does not either. -/
def Place.Fits (script : Script) : Place → Prop
  | inside (.call c next) stage =>
    stage.Serves c ∧ (script.Gentle → (Script.call c next).Gentle)
  | inside rest _ => script.Gentle → rest.Gentle
  | _ => True

theorem Place.fits_fresh {script rest : Script} (h : script.Gentle → rest.Gentle) :
    (Place.inside rest .unborn).Fits script := by
  cases rest with
  | call c next => exact ⟨trivial, h⟩
  | _ => exact h

theorem Place.Next.fits {script : Script} {a b : Place} {m : Move} (next : Place.Next script a m b)
    (h : a.Fits script) : b.Fits script := by
  cases next with
  | enter => exact Place.fits_fresh id
  | call hnext => exact ⟨hnext.serves h.1, h.2⟩
  | back => exact Place.fits_fresh fun hg => (h.2 hg).2 _
  | load => exact Place.fits_fresh fun hg => h hg _
  | store => exact Place.fits_fresh h
  | leave => trivial

theorem Reachable.fits (h : Reachable visits s) (k : κ) :
    (s.place k).Fits (script (visits k).operation (visits k).outcomes) := by
  induction h with
  | start cap => trivial
  | @step s _ _ st ih =>
    cases st with
    | @move j m p _ next =>
      by_cases e : k = j
      · subst e
        rw [State.place_after_self]
        exact next.fits ih
      · rw [State.place_after_of_ne s e]
        exact ih

theorem Reachable.switchesOff_of_take (h : Reachable visits s) {found : Option LiveClient}
    {p : Place} (next : Place.Next (script (visits k).operation (visits k).outcomes) (s.place k)
      (.call (.take found)) p) : (visits k).operation.switchesOff = true := by
  have hfits := h.fits k
  generalize s.place k = a at next hfits
  cases next with
  | call hnext =>
    cases hnext with
    | offTake =>
      cases hoff : (visits k).operation.switchesOff with
      | true => rfl
      | false => exact absurd hfits.1 (hfits.2 (gentle_script hoff _)).1

/-- Whatever empties the handle takes what is in it. -/
theorem Move.take_of_emptied {m : Move} {client : LiveClient} (ready : m.Ready s)
    (hs : s.shared.sink = some client) (hn : (m.effect k s.shared).sink = none) :
    m = .call (.take (some client)) := by
  have hkept : ¬ s.shared.sink = none := by
    rw [hs]
    exact (fun e => nomatch e)
  cases m with
  | call act =>
    cases act with
    | take found =>
      have hfound : s.shared.sink = found := ready
      rw [← hfound, hs]
    | put client' => cases hn
    | endCreate made => cases made <;> exact absurd hn hkept
    | _ => exact absurd hn hkept
  | _ => exact absurd hn hkept

/-- If there was a client and later there is none, somebody took one in between to switch off. -/
theorem Run.taken (hr : Reachable visits t) (h : Run visits t s) {client : LiveClient}
    (ht : t.shared.sink = some client) (hs : s.shared.sink = none) :
    ∃ before j taken after, s.past = before ++ (j, .call (.take (some taken))) :: after ∧
      t.past <+: before ∧ (visits j).operation.switchesOff = true := by
  induction h with
  | refl =>
    rw [ht] at hs
    cases hs
  | @tail u s hu st ih =>
    cases st with
    | @move j m p ready next =>
      cases hsink : u.shared.sink with
      | none =>
        obtain ⟨before, i, taken, after, hpast, hle, hoff⟩ := ih hsink
        refine ⟨before, i, taken, after ++ [(j, m)], ?_, hle, hoff⟩
        show u.past ++ [(j, m)] = _
        rw [hpast, List.append_assoc]
        rfl
      | some taken =>
        obtain rfl := Move.take_of_emptied ready hsink hs
        exact ⟨u.past, j, taken, [], rfl, Run.past hu, (hr.run hu).switchesOff_of_take next⟩

end

end Visitors

end TelemetryGate
