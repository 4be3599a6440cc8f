import Mathlib.Data.Finset.Basic
import TelemetryGate.Proofs.Callers.Path

/-!
# Any number of callers

Callers take their steps in any order; a step waits only for the locks.

* `Shared`        the handle of the client, how many clients were made, and who holds the locks;
* `Act.Ready`     when an act can be done;
* `Act.effect`    what it does to what is shared;
* `Step`          one step of one caller;
* `Reachable`     the states that callers come to, from a manager that is off;
* `deeds`         one caller's part of what was done.
-/

namespace TelemetryGate.Callers

variable {κ : Type}

/-! ### what is shared -/

/-- What callers share. -/
structure Shared (κ : Type) where
  sink : Option LiveClient := none
  /-- how many clients were made -/
  created : Nat := 0
  /-- who holds the lock for transitions -/
  transition : Option κ := none
  /-- who holds the lock of the handle to write -/
  writer : Option κ := none
  /-- who holds it to read -/
  readers : Finset κ := ∅

/-- A lock is waited for until it is free; what is seen is what is there; a client that is made gets
the next number. Any reader may come while others read, also when someone waits to write. -/
def Act.Ready (s : Shared κ) : Act → Prop
  | lock => s.transition = none
  | startRead => s.writer = none
  | startWrite => s.writer = none ∧ s.readers = ∅
  | look found | take found => s.sink = found
  | endCreate (.ok client) => client.number = s.created + 1
  | _ => True

section
variable [DecidableEq κ]

/-- What an act of a caller does to what is shared. -/
def Act.effect (k : κ) (s : Shared κ) : Act → Shared κ
  | lock => { s with transition := some k }
  | unlock => { s with transition := none }
  | startRead => { s with readers := insert k s.readers }
  | endRead => { s with readers := s.readers.erase k }
  | startWrite => { s with writer := some k }
  | endWrite => { s with writer := none }
  | put client => { s with sink := some client }
  | take _ => { s with sink := none }
  | endCreate (.ok client) => { s with created := client.number }
  | _ => s

end

/-! ### runs -/

/-- Whatever stands in a list with one more element at its end is that element, or stood there. -/
theorem split_snoc {α : Type} {l before after : List α} {last x : α}
    (h : l ++ [last] = before ++ x :: after) :
    (l = before ∧ last = x) ∨ ∃ rest, l = before ++ x :: rest := by
  rcases List.eq_nil_or_concat after with rfl | ⟨rest, y, rfl⟩
  · obtain ⟨hl, hx⟩ := List.append_inj' h rfl
    exact .inl ⟨hl, List.singleton_inj.mp hx⟩
  · rw [List.concat_eq_append, ← List.cons_append, ← List.append_assoc] at h
    exact .inr ⟨rest, (List.append_inj' h rfl).1⟩

/-- What is shared, where every caller stands, and what was done so far by whom. -/
structure State (κ : Type) where
  shared : Shared κ := {}
  stage : κ → Stage := fun _ => .unborn
  past : List (κ × Act) := []

section
variable [DecidableEq κ]

/-- The state after an act of a caller that brings it to a stage. -/
def State.after (s : State κ) (k : κ) (act : Act) (b : Stage) : State κ where
  shared := act.effect k s.shared
  stage := Function.update s.stage k b
  past := s.past ++ [(k, act)]

theorem State.stage_after_self (s : State κ) (k : κ) (act : Act) (b : Stage) :
    (s.after k act b).stage k = b :=
  Function.update_self ..

theorem State.stage_after_of_ne (s : State κ) {j k : κ} (h : k ≠ j) (act : Act) (b : Stage) :
    (s.after j act b).stage k = s.stage k :=
  Function.update_of_ne h ..

/-- One step of one caller. -/
inductive Step (calls : κ → Call) : State κ → State κ → Prop
  | act {s : State κ} {k : κ} {act : Act} {b : Stage} (ready : act.Ready s.shared)
    (next : Stage.Next (calls k) (s.stage k) act b) : Step calls s (s.after k act b)

/-- The states that callers come to. -/
inductive Reachable (calls : κ → Call) : State κ → Prop
  | start : Reachable calls {}
  | step {s t : State κ} (h : Reachable calls s) (step : Step calls s t) : Reachable calls t

variable {calls : κ → Call} {s : State κ}

theorem Reachable.act (h : Reachable calls s) (k : κ) {act : Act} {b : Stage}
    (next : Stage.Next (calls k) (s.stage k) act b) (ready : act.Ready s.shared) :
    Reachable calls (s.after k act b) :=
  h.step (.act ready next)

/-- Whatever was done was done in a state that callers came to. -/
theorem Reachable.split (h : Reachable calls s) {before after : List (κ × Act)} {k : κ} {act : Act}
    (e : s.past = before ++ (k, act) :: after) :
    ∃ t b, Reachable calls t ∧ t.past = before ∧ act.Ready t.shared ∧
      Stage.Next (calls k) (t.stage k) act b := by
  induction h generalizing after with
  | start => exact absurd e.symm (by simp)
  | @step s _ h st ih =>
    cases st with
    | @act j did b ready next =>
      rcases split_snoc (show s.past ++ [(j, did)] = _ from e) with ⟨hp, he⟩ | ⟨rest, hp⟩
      · cases he
        exact ⟨s, b, h, hp, ready, next⟩
      · exact ih hp

/-! ### one caller's part -/

/-- What a caller did, in order. -/
def deeds (k : κ) (past : List (κ × Act)) : List Act :=
  (past.filter fun e => e.1 = k).map Prod.snd

theorem deeds_append (k : κ) (past more : List (κ × Act)) :
    deeds k (past ++ more) = deeds k past ++ deeds k more := by
  simp only [deeds, List.filter_append, List.map_append]

theorem deeds_self (k : κ) (act : Act) : deeds k [(k, act)] = [act] := by
  simp [deeds]

theorem deeds_of_ne {k j : κ} (h : j ≠ k) (act : Act) : deeds k [(j, act)] = [] := by
  simp [deeds, h]

theorem mem_deeds {k : κ} {act : Act} {past : List (κ × Act)} :
    act ∈ deeds k past ↔ (k, act) ∈ past := by
  simp [deeds]

/-- One caller's part of a run is a path of its own. -/
theorem Reachable.path (h : Reachable calls s) (k : κ) :
    Stage.Path (calls k) (deeds k s.past) (s.stage k) := by
  induction h with
  | start => exact .start
  | @step s _ h st ih =>
    cases st with
    | @act j act b ready next =>
      show Stage.Path (calls k) (deeds k (s.past ++ [(j, act)])) ((s.after j act b).stage k)
      rw [deeds_append]
      by_cases e : k = j
      · subst e
        rw [deeds_self, State.stage_after_self]
        exact .step ih next
      · rw [deeds_of_ne (Ne.symm e), List.append_nil, State.stage_after_of_ne s e]
        exact ih

theorem Reachable.serves (h : Reachable calls s) (k : κ) : (s.stage k).Serves (calls k) :=
  (h.path k).serves

theorem Reachable.begun (h : Reachable calls s) {k : κ} (hk : s.stage k ≠ .unborn) :
    (k, .begin) ∈ s.past :=
  mem_deeds.mp ((h.path k).begin_mem hk)

theorem Reachable.returned (h : Reachable calls s) {k : κ} {answer : Answer}
    (hf : (k, .finish answer) ∈ s.past) : s.stage k = .returned answer :=
  (h.path k).returned_of_finish (mem_deeds.mpr hf)

end

/-! ### a run -/

/-- The first caller switches on, the third one off, the others track. -/
def fourCallers : Nat → Call
  | 0 => ⟨.enable {}, ⟨fun _ => none, none, none⟩⟩
  | 2 => ⟨.disable, ⟨fun _ => none, none, some .closed⟩⟩
  | _ => ⟨.track "user_raise_hand" [], ⟨fun _ => none, some .queueFull, none⟩⟩

/-- The one that switches off waits to write until the first track, which fails, has ended; the
second one begins after that. -/
def fourPast : List (Nat × Act) :=
  [(0, .begin), (0, .lock), (0, .startRead), (0, .look none), (0, .endRead),
    (0, .startCreate {}), (0, .endCreate (.ok ⟨1, {}⟩)), (0, .startWrite), (0, .put ⟨1, {}⟩),
    (0, .endWrite), (0, .unlock), (0, .finish (.switched (.ok ()))),
    (1, .begin), (1, .startRead), (2, .begin), (2, .lock), (1, .look (some ⟨1, {}⟩)),
    (1, .startTrack 1 "user_raise_hand" []),
    (1, .endTrack 1 "user_raise_hand" [] (some .queueFull)), (1, .endRead),
    (2, .startWrite), (2, .take (some ⟨1, {}⟩)), (2, .endWrite), (2, .startClose 1),
    (1, .finish .tracked), (2, .endClose 1 (some .closed)), (2, .unlock),
    (2, .finish (.switched (.error (.close .closed)))),
    (3, .begin), (3, .startRead), (3, .look none), (3, .endRead), (3, .finish .tracked)]

theorem reachable_fourCallers : ∃ s, Reachable fourCallers s ∧ s.past = fourPast := by
  have h : Reachable fourCallers {} := .start
  have h := h.act 0 .begin trivial
  have h := h.act 0 .onLock rfl
  have h := h.act 0 .onRead rfl
  have h := h.act 0 .onLook rfl
  have h := h.act 0 .onAbsent trivial
  have h := h.act 0 .onCreate trivial
  have h := h.act 0 (.onCreated rfl) rfl
  have h := h.act 0 .onWrite ⟨rfl, rfl⟩
  have h := h.act 0 .onPut trivial
  have h := h.act 0 .onDone trivial
  have h := h.act 0 .unlock trivial
  have h := h.act 0 .finish trivial
  -- the track begins, and the third caller gets the lock for transitions meanwhile
  have h := h.act 1 .begin trivial
  have h := h.act 1 .read rfl
  have h := h.act 2 .begin trivial
  have h := h.act 2 .offLock rfl
  have h := h.act 1 .look rfl
  have h := h.act 1 .track trivial
  have h := h.act 1 .tracked trivial
  have h := h.act 1 .readDone trivial
  -- only now may it write
  have h := h.act 2 .offWrite ⟨rfl, rfl⟩
  have h := h.act 2 .offTake rfl
  have h := h.act 2 .offHeld trivial
  have h := h.act 2 .offClose trivial
  have h := h.act 1 .finish trivial
  have h := h.act 2 .offClosed trivial
  have h := h.act 2 .unlock trivial
  have h := h.act 2 .finish trivial
  have h := h.act 3 .begin trivial
  have h := h.act 3 .read rfl
  have h := h.act 3 .look rfl
  have h := h.act 3 .readDone trivial
  have h := h.act 3 .finish trivial
  exact ⟨_, h, rfl⟩

end TelemetryGate.Callers
