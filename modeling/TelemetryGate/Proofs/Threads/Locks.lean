import TelemetryGate.Proofs.Callers.Locks
import TelemetryGate.Proofs.Delivery.Locks
import TelemetryGate.Proofs.Threads.Program

/-!
# What threads keep

The stage of a thread at the manager says which of the manager's locks it holds, which client it
has in hand, and inside which client it is; the client's locks agree with where threads stand
inside.

* `Visit`              what a thread does inside a client;
* `Stage.held`         the client that a thread has in hand;
* `Stage.AtRest`       a stage between calls;
* `Client.Sound`       what the locks of a client keep;
* `Sound`              what is so of the whole state, and `Reachable.sound`: at every time.
-/

namespace TelemetryGate

/-! ### what a stage has to do with clients -/

namespace Threads

/-- What a thread does inside a client. -/
inductive Visit where
  | track
  | close

/-- Where a place looks like the one that it replaces, nothing looks different. -/
theorem update_alike {κ α γ : Type} [DecidableEq κ] {g : κ → α} {k : κ} {b : α} {f : α → γ}
    (h : f b = f (g k)) (j : κ) : f (Function.update g k b j) = f (g j) := by
  by_cases e : j = k
  · subst e
    rw [Function.update_self, h]
  · rw [Function.update_of_ne e]

end Threads

namespace Callers

open Threads (Visit update_alike)

/-- what is done inside the client of a number -/
def Stage.visit (n : Nat) : Stage → Option Visit
  | trackRun client _ _ => if client.number = n then some .track else none
  | offClose client => if client.number = n then some .close else none
  | _ => none

/-- the client that is had in hand -/
def Stage.held : Stage → Option LiveClient
  | onCreated client | onSwap client | onSwapped client | offHeld client | offClose client
  | trackHeld client _ _ | trackRun client _ _ => some client
  | offSwapped found => found
  | _ => none

/-- A call has not begun, or it has returned. -/
inductive Stage.AtRest : Stage → Prop
  | unborn : AtRest .unborn
  | returned {answer} : AtRest (.returned answer)

variable {c : Call} {a b : Stage} {act : Act}

@[simp] theorem Errand.held_start (e : Errand) : e.start.held = none := by cases e <;> rfl
@[simp] theorem Errand.visit_start (e : Errand) (n : Nat) : e.start.visit n = none := by
  cases e <;> rfl
@[simp] theorem Question.visit_seen (q : Question) (found : Option LiveClient) (n : Nat) :
    (q.seen found).visit n = none := by
  cases q <;> cases found <;> rfl

theorem Question.held_seen {q : Question} {found : Option LiveClient} {live : LiveClient}
    (h : (q.seen found).held = some live) : found = some live := by
  cases q <;> cases found <;> cases h
  rfl

section
variable {κ : Type} {s : Shared κ} {live : LiveClient} {k : κ}

/-- A client in hand was in hand before, or is the live one, or was just made. -/
theorem Stage.Next.held (next : Stage.Next c a act b) (ready : act.Ready s)
    (h : b.held = some live) :
    a.held = some live ∨ s.sink = some live ∨ act = .endCreate (.ok live) := by
  cases next with
  | begin => simp at h
  | onCreated => cases h; exact .inr (.inr rfl)
  | onWrite => exact .inl h
  | onPut => exact .inl h
  | offTake => cases h; exact .inr (.inl ready)
  | offHeld => exact .inl h
  | offClose => exact .inl h
  | look => cases Question.held_seen h; exact .inr (.inl ready)
  | track => exact .inl h
  | _ => cases h

/-- A client is live because it was before, or because it was put there. -/
theorem Stage.Next.sink [DecidableEq κ] (next : Stage.Next c a act b)
    (h : (act.effect k s).sink = some live) : s.sink = some live ∨ a.held = some live := by
  cases next with
  | onPut => exact .inr h
  | offTake => cases h
  | _ => exact .inl h

end

theorem Stage.held_of_visit {n : Nat} {v : Threads.Visit} (h : a.visit n = some v) :
    ∃ live, a.held = some live ∧ live.number = n := by
  cases a with
  | trackRun client event props => exact ⟨client, rfl, (Option.ite_none_right_eq_some.mp h).1⟩
  | offClose client => exact ⟨client, rfl, (Option.ite_none_right_eq_some.mp h).1⟩
  | _ => cases h

/-- Only entering and leaving a client changes inside which client a thread is. -/
theorem Stage.Next.visit_away (next : Stage.Next c a act b) (h : act.atClient = false) (n : Nat) :
    b.visit n = a.visit n := by
  cases next with
  | begin => exact Errand.visit_start _ n
  | look => exact Question.visit_seen _ _ n
  | track => cases h
  | tracked => cases h
  | offClose => cases h
  | offClosed => cases h
  | _ => rfl

/-- Between calls a thread may come to another stage between calls. -/
theorem Guarded.rest {κ : Type} [DecidableEq κ] {s : State κ} {k : κ} (h : Guarded s)
    (ha : (s.stage k).AtRest) (hb : b.AtRest) :
    Guarded { s with stage := Function.update s.stage k b } := by
  have alike {γ : Type} {f : Stage → γ} {x : γ} (hf : ∀ a : Stage, a.AtRest → f a = x) (j : κ) :
      f (Function.update s.stage k b j) = f (s.stage j) :=
    update_alike ((hf b hb).trans (hf _ ha).symm) j
  constructor
  · intro j
    dsimp only
    rw [alike (f := Stage.locks) (x := false) (fun a ha => by cases ha <;> rfl) j]
    exact h.transition j
  · intro j
    dsimp only
    rw [alike (f := Stage.writes) (x := false) (fun a ha => by cases ha <;> rfl) j]
    exact h.writer j
  · intro j
    dsimp only
    rw [alike (f := Stage.reads) (x := false) (fun a ha => by cases ha <;> rfl) j]
    exact h.readers j
  · exact h.apart
  · intro j found hj
    dsimp only at hj
    rw [alike (f := Stage.knows) (x := none) (fun a ha => by cases ha <;> rfl) j] at hj
    exact h.knows j found hj

theorem Guarded.congr {κ : Type} {s t : State κ} (h : Guarded s) (hshared : t.shared = s.shared)
    (hstage : t.stage = s.stage) : Guarded t := by
  obtain ⟨shared, stage, past⟩ := t
  subst hshared hstage
  exact ⟨h.transition, h.writer, h.readers, h.apart, h.knows⟩

end Callers

namespace Delivery

open Threads (Visit update_alike)

/-- what is done inside -/
def Stage.visit : Stage → Option Visit
  | trackStart _ | trackLook _ | trackSend _ | trackDone _ _ | trackLeaving _ _ => some .track
  | closeStart | closeTake | closeTaken | closeWorker | closeJoin | closeLeaving => some .close
  | _ => none

/-- whether the lock of the worker's handle may be held -/
def Stage.handles : Stage → Bool
  | closeWorker | closeJoin | closeLeaving => true
  | _ => false

/-- whether a thread has just come in, or is out again -/
def Stage.atDoor : Stage → Bool
  | outside | trackStart _ | closeStart => true
  | _ => false

variable {a b : Stage} {act : Act}

theorem Stage.reads_of_visit (h : a.visit = none) : a.reads = false := by
  cases a <;> first | rfl | cases h

theorem Stage.writes_of_visit (h : a.visit = none) : a.writes = false := by
  cases a <;> first | rfl | cases h

theorem Stage.Next.visit_eq (next : Stage.Next a act b) (h : act.atManager = false) :
    b.visit = a.visit := by
  cases next <;> first | rfl | cases h

/-- Whoever holds no lock of the sender may come in, or go out. -/
theorem Guarded.moved {κ : Type} [DecidableEq κ] {s : State κ} {k : κ} (h : Guarded s)
    (hr : (s.stage k).reads = false) (hw : (s.stage k).writes = false) (hb : b.atDoor = true) :
    Guarded { s with stage := Function.update s.stage k b } := by
  have hdoor : b.reads = false ∧ b.writes = false ∧ b.shut = false ∧ ∀ x, b ≠ .trackSend x := by
    cases b with
    | outside => exact ⟨rfl, rfl, rfl, fun _ e => nomatch e⟩
    | trackStart x => exact ⟨rfl, rfl, rfl, fun _ e => nomatch e⟩
    | closeStart => exact ⟨rfl, rfl, rfl, fun _ e => nomatch e⟩
    | _ => cases hb
  obtain ⟨hbr, hbw, hbs, hsend⟩ := hdoor
  refine ⟨fun j => ?_, fun j => ?_, h.apart, fun j x hj => ?_, fun j hj => ?_⟩
  · show s.writer = some j ↔ (Function.update s.stage k b j).writes = true
    rw [update_alike (hbw.trans hw.symm) j]
    exact h.writer j
  · show j ∈ s.readers ↔ (Function.update s.stage k b j).reads = true
    rw [update_alike (hbr.trans hr.symm) j]
    exact h.readers j
  · have hj : Function.update s.stage k b j = .trackSend x := hj
    by_cases e : j = k
    · subst e
      rw [Function.update_self] at hj
      exact absurd hj (hsend x)
    · rw [Function.update_of_ne e] at hj
      exact h.sends j x hj
  · have hj : (Function.update s.stage k b j).shut = true := hj
    by_cases e : j = k
    · subst e
      rw [Function.update_self, hbs] at hj
      cases hj
    · rw [Function.update_of_ne e] at hj
      exact h.shut j hj

end Delivery

namespace Threads

variable {κ : Type} {capacity : Nat} {s t : State κ} {c : Client κ} {n : Nat} {j k : κ}

/-! ### one client -/

/-- Its locks agree with where threads stand. -/
structure Client.Sound (c : Client κ) : Prop where
  guarded : Delivery.Guarded c.inner
  handler : ∀ k, c.handler = some k → (c.inner.stage k).handles = true

section
variable [DecidableEq κ]

theorem Client.Sound.fresh (sink : Sink) : (Client.fresh sink : Client κ).Sound :=
  ⟨Delivery.Reachable.start.guarded, fun _ h => nomatch h⟩

theorem Client.moved_self (c : Client κ) (k : κ) (b : Delivery.Stage) :
    (c.moved k b).inner.stage k = b :=
  Function.update_self ..

theorem Client.moved_of_ne (c : Client κ) (h : j ≠ k) (b : Delivery.Stage) :
    (c.moved k b).inner.stage j = c.inner.stage j :=
  Function.update_of_ne h ..

/-- A thread that holds none of its locks may come in, or go out. -/
theorem Client.Sound.moved (h : c.Sound) {b : Delivery.Stage}
    (hr : (c.inner.stage k).reads = false) (hw : (c.inner.stage k).writes = false)
    (hf : c.handler ≠ some k) (hb : b.atDoor = true) : (c.moved k b).Sound where
  guarded := h.guarded.moved hr hw hb
  handler j hj := by
    have hne : j ≠ k := fun e => hf (e ▸ hj)
    rw [c.moved_of_ne hne]
    exact h.handler j hj

theorem Client.Sound.enter (h : c.Sound) {b : Delivery.Stage}
    (hout : (c.inner.stage k).visit = none) (hb : b.atDoor = true) : (c.moved k b).Sound := by
  refine h.moved (Delivery.Stage.reads_of_visit hout) (Delivery.Stage.writes_of_visit hout) ?_ hb
  intro hf
  have hh := h.handler k hf
  generalize c.inner.stage k = a at hout hh
  cases a <;> first | cases hh; done | cases hout

theorem Client.Sound.leave (h : c.Sound)
    (hout : (∃ x answer, c.inner.stage k = .trackLeaving x answer) ∨
      (c.inner.stage k = .closeLeaving ∧ c.handler ≠ some k)) : (c.moved k .outside).Sound := by
  rcases hout with ⟨x, answer, hk⟩ | ⟨hk, hf⟩
  · refine h.moved (by rw [hk]; rfl) (by rw [hk]; rfl) (fun hf => ?_) rfl
    have hh := h.handler k hf
    rw [hk] at hh
    cases hh
  · exact h.moved (by rw [hk]; rfl) (by rw [hk]; rfl) hf rfl

theorem Client.Sound.inside (h : c.Sound) {act : Delivery.Act} {b : Delivery.Stage}
    (next : Delivery.Stage.Next (c.inner.stage k) act b) (ready : c.Ready k act) :
    Client.Sound { c with inner := c.inner.after k act b } where
  guarded := h.guarded.call ready.1 next
  handler j hj := by
    have hh := h.handler j hj
    dsimp only at hj ⊢
    by_cases e : j = k
    · subst e
      rw [Delivery.State.stage_after_self]
      obtain ⟨-, hm, hready⟩ := ready
      generalize c.inner.stage j = a at hh next
      -- whoever holds the lock of the handle takes the worker or is about to leave
      cases next with
      | takeWorker => rfl
      | noWorker => rfl
      | join => rfl
      | closed => cases hm
      | _ => cases hh
    · rw [Delivery.State.stage_after_of_ne c.inner e]
      exact hh

end

/-! ### the whole state -/

/-- What callers of the manager are, without the clients. -/
def State.callers (s : State κ) : Callers.State κ :=
  { shared := s.shared, stage := fun k => (s.thread k).stage }

/-- The manager's locks agree with the stages, and every client's with where threads stand inside;
the live client and those in hand were made, and a thread is inside a client when its stage at the
manager says so. -/
structure Sound (s : State κ) : Prop where
  callers : Callers.Guarded s.callers
  client : ∀ n c, s.client n = some c → c.Sound
  made : ∀ n c, s.client n = some c → n ≤ s.shared.created
  live : ∀ live, s.shared.sink = some live → ∃ c, s.client live.number = some c
  held : ∀ k live, (s.thread k).stage.held = some live → ∃ c, s.client live.number = some c
  visit : ∀ n c k, s.client n = some c → (c.inner.stage k).visit = (s.thread k).stage.visit n

theorem Sound.start (cap : Nat) : Sound ({ cap } : State κ) where
  callers := .start
  client _ _ h := nomatch h
  made _ _ h := nomatch h
  live _ h := nomatch h
  held _ _ h := nomatch h
  visit _ _ _ h := nomatch h

/-- What is found among clients once one of them was set. -/
theorem update_cases {f : Nat → Option (Client κ)} {c d : Client κ} {m n : Nat}
    (h : Function.update f n (some c) m = some d) : (m = n ∧ d = c) ∨ (m ≠ n ∧ f m = some d) := by
  by_cases e : m = n
  · subst e
    rw [Function.update_self] at h
    exact .inl ⟨rfl, (Option.some.inj h).symm⟩
  · rw [Function.update_of_ne e] at h
    exact .inr ⟨e, h⟩

theorem exists_update {f : Nat → Option (Client κ)} {c : Client κ} {m n : Nat}
    (h : m = n ∨ ∃ d, f m = some d) : ∃ d, Function.update f n (some c) m = some d := by
  by_cases e : m = n
  · subst e
    exact ⟨c, Function.update_self ..⟩
  · obtain ⟨d, hd⟩ := h.resolve_left e
    exact ⟨d, (Function.update_of_ne e ..).trans hd⟩

/-- What goes on inside a client leaves everything else as it is. -/
theorem Sound.withClient (h : Sound s) {c' : Client κ} (hc : s.client n = some c) (hs : c'.Sound)
    (hv : ∀ k, (c'.inner.stage k).visit = (c.inner.stage k).visit) :
    Sound (s.withClient n c') where
  callers := h.callers
  client m d hd := by
    rcases update_cases hd with ⟨rfl, rfl⟩ | ⟨-, hd⟩
    · exact hs
    · exact h.client m d hd
  made m d hd := by
    rcases update_cases hd with ⟨rfl, rfl⟩ | ⟨-, hd⟩
    · exact h.made m c hc
    · exact h.made m d hd
  live live hl := exists_update (.inr (h.live live hl))
  held j live hl := exists_update (.inr (h.held j live hl))
  visit m d j hd := by
    rcases update_cases hd with ⟨rfl, rfl⟩ | ⟨-, hd⟩
    · exact (hv j).trans (h.visit m c j hc)
    · exact h.visit m d j hd

/-- A client is made under a number that no other has, and inside which nobody is. -/
theorem Sound.visit_made (h : Sound s) {n : Nat} (hn : s.shared.created < n) (j : κ) :
    (s.thread j).stage.visit n = none := by
  cases hv : (s.thread j).stage.visit n with
  | none => rfl
  | some v =>
    obtain ⟨live, hheld, rfl⟩ := Callers.Stage.held_of_visit hv
    obtain ⟨c, hc⟩ := h.held j live hheld
    exact absurd (h.made live.number c hc) (Nat.not_le.mpr hn)

section
variable [DecidableEq κ]

theorem stage_update (thread : κ → Thread) (k : κ) (p : Thread) :
    (fun j => (Function.update thread k p j).stage)
      = Function.update (fun j => (thread j).stage) k p.stage :=
  funext fun j => Function.apply_update (fun _ => Thread.stage) thread k p j

/-- Between calls a thread may go on as it likes. -/
theorem Sound.rest (h : Sound s) {p : Thread} (ha : (s.thread k).stage.AtRest)
    (hb : p.stage.AtRest) (cap : Nat) : Sound ({ s with cap }.to k p) where
  callers := (h.callers.rest ha hb).congr rfl (stage_update s.thread k p)
  client := h.client
  made := h.made
  live := h.live
  held j live hj := by
    have hnone (a : Callers.Stage) (ha : a.AtRest) : a.held = none := by cases ha <;> rfl
    have halike := update_alike (g := s.thread) (k := k) (b := p)
      (f := fun p => p.stage.held) ((hnone _ hb).trans (hnone _ ha).symm) j
    exact h.held j live (halike.symm.trans hj)
  visit n c j hc := by
    have hnone (a : Callers.Stage) (ha : a.AtRest) : a.visit n = none := by cases ha <;> rfl
    have halike := update_alike (g := s.thread) (k := k) (b := p)
      (f := fun p => p.stage.visit n) ((hnone _ hb).trans (hnone _ ha).symm) j
    exact (h.visit n c j hc).trans halike.symm

/-! ### acts at the manager -/

section
variable {request : Callers.Request} {next : Callers.Answer → Visitors.Script} {a b : Callers.Stage}
  {act : Callers.Act} {o : Outcomes} {client : Nat → Option (Client κ)}

theorem created_le (ready : act.Ready s.shared) (k : κ) :
    s.shared.created ≤ (act.effect k s.shared).created := by
  cases act with
  | endCreate result =>
    cases result with
    | ok made =>
      have hnumber : made.number = s.shared.created + 1 := ready
      show s.shared.created ≤ made.number
      omega
    | error e => exact Nat.le_refl _
  | _ => exact Nat.le_refl _

/-- A client takes its place among the others when an act of a thread ends. -/
structure Takes (s : State κ) (k : κ) (act : Callers.Act) (a b : Callers.Stage) (n : Nat)
    (c : Client κ) : Prop where
  sound : c.Sound
  number : n ≤ (act.effect k s.shared).created
  here : (c.inner.stage k).visit = b.visit n
  there : ∀ j, j ≠ k → (c.inner.stage j).visit = (s.thread j).stage.visit n
  elsewhere : ∀ m, m ≠ n → b.visit m = a.visit m
  made : ∀ live, act = .endCreate (.ok live) → live.number = n

/-- The thread comes in, or goes out. -/
theorem Sound.takes (h : Sound s) (ready : act.Ready s.shared) {door : Delivery.Stage}
    (hc : s.client n = some c) (hsound : (c.moved k door).Sound) (hdoor : door.visit = b.visit n)
    (hv : ∀ m, m ≠ n → b.visit m = a.visit m) (hact : ∀ result, act ≠ .endCreate result) :
    Takes s k act a b n (c.moved k door) where
  sound := hsound
  number := (h.made n c hc).trans (created_le ready k)
  here := by rw [Client.moved_self, hdoor]
  there j e := by rw [c.moved_of_ne e, h.visit n c j hc]
  elsewhere := hv
  made live e := absurd e (hact _)

/-- What an act means for the clients: one of them takes its place, or they stay as they are. -/
theorem Sound.meets (h : Sound s) (hk : s.thread k = .calling request next a)
    (stage : Callers.Stage.Next ⟨request, o⟩ a act b) (ready : act.Ready s.shared)
    (meets : Meets capacity k s.client act client) :
    (∃ n c, client = Function.update s.client n (some c) ∧ Takes s k act a b n c) ∨
    (client = s.client ∧ act.atClient = false) := by
  have hvisit {n c} (hc : s.client n = some c) : (c.inner.stage k).visit = a.visit n := by
    rw [h.visit n c k hc, hk]
    rfl
  cases meets with
  | @create made sink hs =>
    cases stage
    have hnumber : _ = s.shared.created + 1 := ready
    refine .inl ⟨_, _, rfl, .fresh sink, Nat.le_refl _, rfl, fun j _ => ?_, fun _ _ => rfl, ?_⟩
    · exact (h.visit_made (by omega) j).symm
    · rintro live e
      cases e
      rfl
  | @startTrack n event props c hc stamp =>
    cases stage
    refine .inl ⟨_, _, rfl, h.takes ready hc ((h.client _ c hc).enter (hvisit hc) rfl) ?_ ?_ ?_⟩
    · exact (if_pos rfl).symm
    · exact fun m hm => if_neg (Ne.symm hm)
    · exact fun _ e => nomatch e
  | @endTrack n event props c x answer hc hleaving =>
    generalize ha : Callers.Act.endTrack n event props (Delivery.failure? answer) = act at *
    cases stage with
    | tracked =>
      obtain ⟨rfl, rfl, rfl, -⟩ := Callers.Act.endTrack.inj ha
      have hsound := (h.client _ c hc).leave (.inl ⟨x, answer, hleaving⟩)
      refine .inl ⟨_, _, rfl, h.takes ready hc hsound rfl ?_ ?_⟩
      · exact fun m hm => (if_neg (Ne.symm hm)).symm
      · exact fun _ e => nomatch e
    | _ => cases ha
  | @startClose n c hc =>
    cases stage
    refine .inl ⟨_, _, rfl, h.takes ready hc ((h.client _ c hc).enter (hvisit hc) rfl) ?_ ?_ ?_⟩
    · exact (if_pos rfl).symm
    · exact fun m hm => if_neg (Ne.symm hm)
    · exact fun _ e => nomatch e
  | @endClose n c hc hleaving hf =>
    generalize ha : Callers.Act.endClose n none = act at *
    cases stage with
    | offClosed =>
      obtain ⟨rfl, -⟩ := Callers.Act.endClose.inj ha
      have hsound := (h.client _ c hc).leave (.inr ⟨hleaving, hf⟩)
      refine .inl ⟨_, _, rfl, h.takes ready hc hsound rfl ?_ ?_⟩
      · exact fun m hm => (if_neg (Ne.symm hm)).symm
      · exact fun _ e => nomatch e
    | _ => cases ha
  | away ha => exact .inr ⟨rfl, ha⟩

/-- Nothing else need be known of the clients after an act than that each is sound, has a number
that was given, and has threads inside as the stages say, and that none is lost. -/
theorem Sound.acted_of (h : Sound s) (hk : s.thread k = .calling request next a)
    (stage : Callers.Stage.Next ⟨request, o⟩ a act b) (ready : act.Ready s.shared)
    (hkept : ∀ m, (∃ c, s.client m = some c) ∨ (∃ made, act = .endCreate (.ok made) ∧
      made.number = m) → ∃ c, client m = some c)
    (hsound : ∀ m c, client m = some c → c.Sound)
    (hmade : ∀ m c, client m = some c → m ≤ (act.effect k s.shared).created)
    (hhere : ∀ m c, client m = some c → (c.inner.stage k).visit = b.visit m)
    (hthere : ∀ m c, client m = some c → ∀ j, j ≠ k →
      (c.inner.stage j).visit = (s.thread j).stage.visit m) :
    Sound (s.acted k act (.calling request next b) client) := by
  have hstage : (s.thread k).stage = a := by
    rw [hk]
    rfl
  have hself : ((s.acted k act (.calling request next b) client).thread k).stage = b :=
    congrArg Thread.stage (Function.update_self k _ s.thread)
  have hother {j : κ} (e : j ≠ k) :
      (s.acted k act (.calling request next b) client).thread j = s.thread j :=
    Function.update_of_ne e ..
  have hfrom : Callers.Stage.Next ⟨request, o⟩ (s.thread k).stage act b := by
    rw [hstage]
    exact stage
  have hstep : Callers.Step (fun _ => ⟨request, o⟩) s.callers (s.callers.after k act b) :=
    .act ready hfrom
  refine ⟨(h.callers.step hstep).congr rfl (stage_update ..), hsound, hmade, ?_, ?_, ?_⟩
  · intro live hl
    rcases stage.sink hl with hl | hl
    · exact hkept _ (.inl (h.live live hl))
    · exact hkept _ (.inl (h.held k live (hstage.symm ▸ hl)))
  · intro j live hl
    by_cases e : j = k
    · subst e
      rw [hself] at hl
      rcases stage.held ready hl with hl | hl | rfl
      · exact hkept _ (.inl (h.held j live (hstage.symm ▸ hl)))
      · exact hkept _ (.inl (h.live live hl))
      · exact hkept _ (.inr ⟨live, rfl, rfl⟩)
    · rw [hother e] at hl
      exact hkept _ (.inl (h.held j live hl))
  · intro m c j hc
    by_cases e : j = k
    · subst e
      rw [hself]
      exact hhere m c hc
    · rw [hother e]
      exact hthere m c hc j e

/-- An act at the manager keeps all of it, whatever it means for the clients. -/
theorem Sound.acted (h : Sound s) (hk : s.thread k = .calling request next a)
    (stage : Callers.Stage.Next ⟨request, o⟩ a act b) (ready : act.Ready s.shared)
    (meets : Meets capacity k s.client act client) :
    Sound (s.acted k act (.calling request next b) client) := by
  have hvisit {m d} (hd : s.client m = some d) : (d.inner.stage k).visit = a.visit m := by
    rw [h.visit m d k hd, hk]
    rfl
  have hle {m d} (hd : s.client m = some d) := (h.made m d hd).trans (created_le ready k)
  rcases h.meets hk stage ready meets with ⟨n, c, rfl, htakes⟩ | ⟨rfl, haway⟩
  · refine h.acted_of hk stage ready ?_ ?_ ?_ ?_ ?_
    · rintro m (hm | ⟨made, he, rfl⟩)
      · exact exists_update (.inr hm)
      · exact exists_update (.inl (htakes.made made he))
    · intro m d hd
      rcases update_cases hd with ⟨rfl, rfl⟩ | ⟨-, hd⟩
      · exact htakes.sound
      · exact h.client m d hd
    · intro m d hd
      rcases update_cases hd with ⟨rfl, rfl⟩ | ⟨-, hd⟩
      · exact htakes.number
      · exact hle hd
    · intro m d hd
      rcases update_cases hd with ⟨rfl, rfl⟩ | ⟨e, hd⟩
      · exact htakes.here
      · rw [hvisit hd, htakes.elsewhere m e]
    · intro m d hd j e
      rcases update_cases hd with ⟨rfl, rfl⟩ | ⟨-, hd⟩
      · exact htakes.there j e
      · exact h.visit m d j hd
  · refine h.acted_of hk stage ready ?_ h.client (fun m d hd => hle hd) ?_
      fun m d hd j _ => h.visit m d j hd
    · rintro m (hm | ⟨made, rfl, hm⟩)
      · exact hm
      · cases haway
    · intro m d hd
      rw [hvisit hd, stage.visit_away haway m]

end

/-! ### every state -/

theorem Thread.Goes.atRest {cap cap' : Nat} {p q : Thread} (h : Thread.Goes cap p cap' q) :
    p.stage.AtRest ∧ q.stage.AtRest := by
  cases h with
  | back => exact ⟨.returned, .unborn⟩
  | _ => exact ⟨.unborn, .unborn⟩

theorem Sound.step (h : Sound s) {m : Move κ} (st : Step capacity s m t) : Sound t := by
  cases st with
  | go hk => exact h.rest hk.atRest.1 hk.atRest.2 _
  | act hk stage ready meets => exact h.acted hk stage ready meets
  | @inside n k c act b hc stage ready =>
    refine h.withClient hc ((h.client n c hc).inside stage ready) fun j => ?_
    exact update_alike (f := Delivery.Stage.visit) (stage.visit_eq ready.2.1) j
  | @hold n k c hc hk hfree =>
    refine h.withClient hc ⟨(h.client n c hc).guarded, fun j hj => ?_⟩ fun _ => rfl
    cases hj
    show (c.inner.stage k).handles = true
    rw [hk]
    rfl
  | @release n k c hc hheld hk =>
    exact h.withClient hc ⟨(h.client n c hc).guarded, fun _ hj => nomatch hj⟩ fun _ => rfl
  | @work n c labour sink worker hc step =>
    have hsound := h.client n c hc
    exact h.withClient hc ⟨hsound.guarded.step step, hsound.handler⟩ fun _ => rfl

theorem Reachable.sound (h : Reachable capacity s) : Sound s := by
  induction h with
  | start cap => exact .start cap
  | @begin s k _ hk op o ih =>
    have hrest : (s.thread k).stage.AtRest := by
      rw [hk]
      exact .unborn
    exact ih.rest (p := .between (Visitors.script op o)) hrest .unborn s.cap
  | step _ st ih => exact ih.step st

end

end Threads

end TelemetryGate
