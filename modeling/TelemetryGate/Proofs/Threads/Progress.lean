import TelemetryGate.Proofs.Delivery.Close
import TelemetryGate.Proofs.Threads.Locks

/-!
# Somebody can go on

Whoever waits waits for somebody else who does not wait for it: those who want to switch for the one
who switches, and it for those who use the handle; those who use the handle, and whoever closes a
client, for those inside the client; and those inside for its worker, which waits for nobody.

* `CanGo`                   somebody can take a step, and no reader goes ahead of a waiting writer;
* `canGo_worker`, ..        one lemma for each that is waited for, from the worker outwards;
* `Reachable.exists_step`   nobody is stuck as long as anybody makes an operation.
-/

namespace TelemetryGate

/-! ### inside which client a thread is -/

namespace Callers

variable {a : Stage} {n : Nat}

theorem Stage.trackRun_of_visit (h : a.visit n = some .track) :
    ∃ client event props, a = .trackRun client event props ∧ client.number = n := by
  cases a with
  | trackRun client event props =>
    exact ⟨client, event, props, rfl, (Option.ite_none_right_eq_some.mp h).1⟩
  | offClose client => cases (Option.ite_none_right_eq_some.mp h).2
  | _ => cases h

theorem Stage.offClose_of_visit (h : a.visit n = some .close) :
    ∃ client, a = .offClose client ∧ client.number = n := by
  cases a with
  | trackRun client event props => cases (Option.ite_none_right_eq_some.mp h).2
  | offClose client => exact ⟨client, rfl, (Option.ite_none_right_eq_some.mp h).1⟩
  | _ => cases h

/-- whether something is waited for: a lock, or what is done inside a client -/
def Stage.waits : Stage → Bool
  | onStart _ | onEnter _ | onCreated _ | offStart | offEnter | offClose _ | readStart _
  | trackRun _ _ _ => true
  | _ => false

theorem Stage.waits_of_writes (h : a.writes = true) : a.waits = false := by
  cases a <;> first | rfl | cases h

theorem Stage.waits_of_reads (h : a.reads = true) :
    a.waits = false ∨ ∃ client event props, a = .trackRun client event props := by
  cases a with
  | trackRun client event props => exact .inr ⟨client, event, props, rfl⟩
  | _ => first | exact .inl rfl | cases h

theorem Stage.Next.ne_startRead {c : Call} {act : Act} (next : Stage.Next c a act b)
    (ha : a.waits = false) : act ≠ .startRead := by
  rintro rfl
  cases next <;> cases ha

section
variable {κ : Type} {s : State κ}

theorem Guarded.writer_eq_none (h : Guarded s) (hno : ∀ j, (s.stage j).writes = false) :
    s.shared.writer = none := by
  refine Option.eq_none_iff_forall_ne_some.mpr fun j hj => ?_
  have hw := (h.writer j).mp hj
  rw [hno j] at hw
  cases hw

theorem Guarded.readers_eq_empty (h : Guarded s) (hno : ∀ j, (s.stage j).reads = false) :
    s.shared.readers = ∅ := by
  refine Finset.eq_empty_of_forall_notMem fun j hj => ?_
  have hr := (h.readers j).mp hj
  rw [hno j] at hr
  cases hr

end

end Callers

namespace Threads

variable {κ : Type} [DecidableEq κ] {capacity : Nat} {s t : State κ} {c : Client κ} {n : Nat}
  {j k : κ}

/-- Somebody can take a step, and no reader goes ahead of a writer that waits. -/
def CanGo (capacity : Nat) (s : State κ) : Prop := ∃ m t, Step capacity s m t ∧ m.Polite s

/-! ### inside a client -/

section
variable {act : Delivery.Act} {a b : Delivery.Stage}

/-- What needs no lock of the handle and is no reading of the sender is done without more ado. -/
theorem canGo_inside (hc : s.client n = some c) (hk : c.inner.stage k = a)
    (next : Delivery.Stage.Next a act b) (ready : c.Ready k act) (hact : act ≠ .startRead) :
    CanGo capacity s := by
  subst hk
  refine ⟨_, _, .inside hc next ready, ?_⟩
  cases act with
  | startRead => exact absurd rfl hact
  | _ => trivial

/-- The worker waits for nobody once nothing more may come. -/
theorem canGo_worker (hc : s.client n = some c) (hw : c.inner.worker ≠ .stopped)
    (ho : c.inner.sink.queue.isOpen = false) : CanGo capacity s := by
  cases hworker : c.inner.worker with
  | idle =>
    cases hq : c.inner.sink.queue.waiting with
    | nil => exact ⟨_, _, .work hc (.stop hworker hq ho), trivial⟩
    | cons payload rest => exact ⟨_, _, .work hc (.receive hworker hq), trivial⟩
  | holding payload => exact ⟨_, _, .work hc (.startPost hworker), trivial⟩
  | posting payload => exact ⟨_, _, .work hc (.endPost hworker (.status 200)), trivial⟩
  | stopped => exact absurd hworker hw

theorem canGo_reading (hc : s.client n = some c) (hk : (c.inner.stage k).reads = true) :
    CanGo capacity s := by
  cases hs : c.inner.stage k with
  | trackLook x =>
    cases ho : c.inner.sink.queue.isOpen with
    | true => exact canGo_inside hc hs .look ⟨ho, rfl, trivial⟩ nofun
    | false => exact canGo_inside hc hs .lookNone ⟨ho, rfl, trivial⟩ nofun
  | trackSend x => exact canGo_inside hc hs .send ⟨rfl, rfl, trivial⟩ nofun
  | trackDone x answer =>
    exact canGo_inside hc hs .readDone ⟨trivial, rfl, trivial⟩ nofun
  | _ =>
    rw [hs] at hk
    cases hk

theorem canGo_writing (hc : s.client n = some c) (hk : (c.inner.stage k).writes = true) :
    CanGo capacity s := by
  cases hs : c.inner.stage k with
  | closeTake =>
    exact canGo_inside hc hs .takeSender ⟨trivial, rfl, trivial⟩ nofun
  | closeTaken => exact canGo_inside hc hs .writeDone ⟨trivial, rfl, trivial⟩ nofun
  | _ =>
    rw [hs] at hk
    cases hk

/-- Whoever wants the sender to itself waits for those who use it. -/
theorem Client.Sound.canGo_closeStart (h : c.Sound) (hc : s.client n = some c)
    (hk : c.inner.stage k = .closeStart) : CanGo capacity s := by
  by_cases hw : ∃ j, (c.inner.stage j).writes = true
  · obtain ⟨j, hj⟩ := hw
    exact canGo_writing hc hj
  by_cases hr : ∃ j, (c.inner.stage j).reads = true
  · obtain ⟨j, hj⟩ := hr
    exact canGo_reading hc hj
  have hwriter := h.guarded.writer_eq_none fun j => Bool.eq_false_iff.mpr fun hj => hw ⟨j, hj⟩
  have hreaders := h.guarded.readers_eq_empty fun j => Bool.eq_false_iff.mpr fun hj => hr ⟨j, hj⟩
  exact canGo_inside hc hk .write ⟨⟨hwriter, hreaders⟩, rfl, trivial⟩ nofun

/-- Whoever wants to read the sender waits for those who want it to themselves. -/
theorem Client.Sound.canGo_trackStart (h : c.Sound) (hc : s.client n = some c) {x : Delivery.Item}
    (hk : c.inner.stage k = .trackStart x) : CanGo capacity s := by
  by_cases hs : ∃ j, c.inner.stage j = .closeStart
  · obtain ⟨j, hj⟩ := hs
    exact h.canGo_closeStart hc hj
  by_cases hw : ∃ j, (c.inner.stage j).writes = true
  · obtain ⟨j, hj⟩ := hw
    exact canGo_writing hc hj
  have hwriter := h.guarded.writer_eq_none fun j => Bool.eq_false_iff.mpr fun hj => hw ⟨j, hj⟩
  have next : Delivery.Stage.Next (c.inner.stage k) .startRead (.trackLook x) := by
    rw [hk]
    exact .read
  refine ⟨_, _, .inside hc next ⟨hwriter, rfl, trivial⟩, ?_⟩
  intro d hd j hj
  rw [hc] at hd
  cases hd
  exact hs ⟨j, hj⟩

/-- Whoever holds the lock of the worker's handle takes the worker, or lets go of the lock. -/
theorem Client.Sound.canGo_handling (h : c.Sound) (hc : s.client n = some c)
    (hf : c.handler = some k) : CanGo capacity s := by
  have hh := h.handler k hf
  cases hs : c.inner.stage k with
  | closeWorker =>
    cases hj : c.inner.joinable with
    | true => exact canGo_inside hc hs .takeWorker ⟨hj, rfl, hf⟩ nofun
    | false => exact canGo_inside hc hs .noWorker ⟨hj, rfl, hf⟩ nofun
  | closeJoin => exact ⟨_, _, .release hc hf (by rw [hs]; exact nofun), trivial⟩
  | closeLeaving => exact ⟨_, _, .release hc hf (by rw [hs]; exact nofun), trivial⟩
  | _ =>
    rw [hs] at hh
    cases hh

theorem Client.Sound.canGo_closeWorker (h : c.Sound) (hc : s.client n = some c)
    (hk : c.inner.stage k = .closeWorker) : CanGo capacity s := by
  cases hf : c.handler with
  | none => exact ⟨_, _, .hold hc hk hf, trivial⟩
  | some j => exact h.canGo_handling hc hf

/-- Whoever waits for the worker has taken the sender before. -/
theorem Client.Sound.canGo_closeJoin (h : c.Sound) (hc : s.client n = some c)
    (hk : c.inner.stage k = .closeJoin) : CanGo capacity s := by
  by_cases hf : c.handler = some k
  · exact h.canGo_handling hc hf
  by_cases hw : c.inner.worker = .stopped
  · exact canGo_inside hc hk .join ⟨hw, rfl, hf⟩ nofun
  · exact canGo_worker hc hw (h.guarded.shut k (by rw [hk]; rfl))

end

/-! ### back at the manager -/

section
variable {request : Callers.Request} {next : Callers.Answer → Visitors.Script}
  {act : Callers.Act} {a b : Callers.Stage} {client : Nat → Option (Client κ)}

theorem Thread.calling_of_stage {p : Thread} (h : p.stage = a) (ha : a ≠ .unborn) :
    ∃ request next, p = .calling request next a := by
  cases p with
  | calling request next stage =>
    cases h
    exact ⟨request, next, rfl⟩
  | _ => exact absurd h.symm ha

/-- An act that is no reading of the handle is done without more ado. -/
theorem canGo_act (trouble : Option String) (failure : Option ReportError)
    (hk : s.thread k = .calling request next a)
    (stage : Callers.Stage.Next ⟨request, outcomes capacity trouble failure⟩ a act b)
    (ready : act.Ready s.shared) (meets : Meets capacity k s.client act client)
    (hact : act ≠ .startRead) : CanGo capacity s := by
  refine ⟨_, _, .act hk stage ready meets, ?_⟩
  cases act with
  | startRead => exact absurd rfl hact
  | _ => trivial

/-- Whoever has nothing left to do inside a client goes out. -/
theorem Sound.canGo_trackLeaving (h : Sound s) (hc : s.client n = some c) {x : Delivery.Item}
    {answer : Except ReportError Unit} (hk : c.inner.stage k = .trackLeaving x answer) :
    CanGo capacity s := by
  have hv := h.visit n c k hc
  rw [hk] at hv
  obtain ⟨live, event, props, hs, rfl⟩ := Callers.Stage.trackRun_of_visit hv.symm
  obtain ⟨request, next, hthread⟩ := Thread.calling_of_stage hs nofun
  exact canGo_act none (Delivery.failure? answer) hthread .tracked trivial (.endTrack hc hk) nofun

theorem Sound.canGo_closeLeaving (h : Sound s) (hc : s.client n = some c)
    (hk : c.inner.stage k = .closeLeaving) : CanGo capacity s := by
  by_cases hf : c.handler = some k
  · exact (h.client n c hc).canGo_handling hc hf
  have hv := h.visit n c k hc
  rw [hk] at hv
  obtain ⟨live, hs, rfl⟩ := Callers.Stage.offClose_of_visit hv.symm
  obtain ⟨request, next, hthread⟩ := Thread.calling_of_stage hs nofun
  exact canGo_act none none hthread .offClosed trivial (.endClose hc hk hf) nofun

/-- Inside a client nobody is stuck. -/
theorem Sound.canGo_visiting (h : Sound s) (hc : s.client n = some c) {v : Visit}
    (hk : (c.inner.stage k).visit = some v) : CanGo capacity s := by
  have hsound := h.client n c hc
  cases hs : c.inner.stage k with
  | trackStart x => exact hsound.canGo_trackStart hc hs
  | trackLook x => exact canGo_reading hc (by rw [hs]; rfl)
  | trackSend x => exact canGo_reading hc (by rw [hs]; rfl)
  | trackDone x answer => exact canGo_reading hc (by rw [hs]; rfl)
  | trackLeaving x answer => exact h.canGo_trackLeaving hc hs
  | closeStart => exact hsound.canGo_closeStart hc hs
  | closeTake => exact canGo_writing hc (by rw [hs]; rfl)
  | closeTaken => exact canGo_writing hc (by rw [hs]; rfl)
  | closeWorker => exact hsound.canGo_closeWorker hc hs
  | closeJoin => exact hsound.canGo_closeJoin hc hs
  | closeLeaving => exact h.canGo_closeLeaving hc hs
  | _ =>
    rw [hs] at hk
    cases hk

/-- So nobody is whose stage at the manager says that it is inside a client. -/
theorem Sound.canGo_inClient (h : Sound s) {live : LiveClient} {v : Visit}
    (hheld : (s.thread k).stage.held = some live)
    (hv : (s.thread k).stage.visit live.number = some v) : CanGo capacity s := by
  obtain ⟨c, hc⟩ := h.held k live hheld
  exact h.canGo_visiting hc ((h.visit _ c k hc).trans hv)

/-! ### at the manager -/

/-- Where nothing is waited for, there is something to do. -/
theorem Sound.canGo_free (h : Sound s) (hk : s.thread k = .calling request next a)
    (ha : a.waits = false) : CanGo capacity s := by
  have away {act b} (stage : Callers.Stage.Next ⟨request, outcomes capacity none none⟩ a act b)
      (ready : act.Ready s.shared) (haway : act.atClient = false) : CanGo capacity s :=
    canGo_act none none hk stage ready (.away haway) (stage.ne_startRead ha)
  have hheld {live} (ha : a.held = some live) : ∃ c, s.client live.number = some c :=
    h.held k live (by rw [hk]; exact ha)
  cases a with
  | unborn => exact away .begin trivial rfl
  | onLook config => exact away .onLook rfl rfl
  | onLooked config found =>
    cases found with
    | none => exact away .onAbsent trivial rfl
    | some live => exact away .onFound trivial rfl
  | onAbsent config => exact away .onCreate trivial rfl
  | onCreate config =>
    cases hs : Sink.create config capacity with
    | error f =>
      have hrefused : (outcomes capacity none none).create config = some (.invalidClient f) := by
        simp [outcomes, Sink.outcomes, hs]
      exact away (.onRefused hrefused) trivial rfl
    | ok sink =>
      have hmade : (outcomes capacity none none).create config = none := by
        simp [outcomes, Sink.outcomes, hs]
      have stage : Callers.Stage.Next ⟨request, outcomes capacity none none⟩ (.onCreate config)
          (.endCreate (.ok ⟨s.shared.created + 1, config⟩)) _ := .onCreated hmade
      exact canGo_act none none hk stage rfl (.create hs) (stage.ne_startRead rfl)
  | onSwap live => exact away .onPut trivial rfl
  | onSwapped live => exact away .onDone trivial rfl
  | offSwap => exact away .offTake rfl rfl
  | offSwapped found =>
    cases found with
    | none => exact away .offNothing trivial rfl
    | some live => exact away .offHeld trivial rfl
  | offHeld live =>
    obtain ⟨c, hc⟩ := hheld rfl
    have stage : Callers.Stage.Next ⟨request, outcomes capacity none none⟩ (.offHeld live)
        (.startClose live.number) _ := .offClose
    exact canGo_act none none hk stage trivial (.startClose hc) (stage.ne_startRead rfl)
  | unlocking answer => exact away .unlock trivial rfl
  | readLook q => exact away .look rfl rfl
  | trackHeld live event props =>
    obtain ⟨c, hc⟩ := hheld rfl
    have stage : Callers.Stage.Next ⟨request, outcomes capacity none none⟩
        (.trackHeld live event props) (.startTrack live.number event props) _ := .track
    exact canGo_act none none hk stage trivial (.startTrack hc ⟨"", ""⟩) (stage.ne_startRead rfl)
  | readDone answer => exact away .readDone trivial rfl
  | leaving answer => exact away .finish trivial rfl
  | returned answer =>
    have hgoes : Thread.Goes s.cap (s.thread k) s.cap (.between (next answer)) := by
      rw [hk]
      exact .back
    exact ⟨_, _, .go hgoes, trivial⟩
  | _ => cases ha

theorem Sound.canGo_active (h : Sound s) (hk : (s.thread k).stage ≠ .unborn)
    (ha : (s.thread k).stage.waits = false) : CanGo capacity s := by
  obtain ⟨request, next, hthread⟩ := Thread.calling_of_stage rfl hk
  exact h.canGo_free hthread ha

/-- Whoever writes the handle waits for nobody. -/
theorem Sound.canGo_writes (h : Sound s) (hk : (s.thread k).stage.writes = true) :
    CanGo capacity s := by
  refine h.canGo_active (k := k) (fun e => ?_) (Callers.Stage.waits_of_writes hk)
  rw [e] at hk
  cases hk

/-- Whoever reads it is inside a client, or waits for nobody. -/
theorem Sound.canGo_reads (h : Sound s) (hk : (s.thread k).stage.reads = true) :
    CanGo capacity s := by
  rcases Callers.Stage.waits_of_reads hk with ha | ⟨live, event, props, hs⟩
  · refine h.canGo_active (k := k) (fun e => ?_) ha
    rw [e] at hk
    cases hk
  · refine h.canGo_inClient (k := k) (v := .track) (by rw [hs]; rfl) ?_
    rw [hs]
    exact if_pos rfl

/-- Whoever wants the handle to itself waits for those who use it. -/
theorem Sound.canGo_awaitsWrite (h : Sound s) (hk : (s.thread k).stage.awaitsWrite = true) :
    CanGo capacity s := by
  by_cases hw : ∃ j, (s.thread j).stage.writes = true
  · obtain ⟨j, hj⟩ := hw
    exact h.canGo_writes hj
  by_cases hr : ∃ j, (s.thread j).stage.reads = true
  · obtain ⟨j, hj⟩ := hr
    exact h.canGo_reads hj
  have hready : s.shared.writer = none ∧ s.shared.readers = ∅ :=
    ⟨h.callers.writer_eq_none fun j => Bool.eq_false_iff.mpr fun hj => hw ⟨j, hj⟩,
      h.callers.readers_eq_empty fun j => Bool.eq_false_iff.mpr fun hj => hr ⟨j, hj⟩⟩
  cases hs : (s.thread k).stage with
  | onCreated live =>
    obtain ⟨request, next, hthread⟩ := Thread.calling_of_stage hs nofun
    exact canGo_act none none hthread .onWrite hready (.away rfl) nofun
  | offEnter =>
    obtain ⟨request, next, hthread⟩ := Thread.calling_of_stage hs nofun
    exact canGo_act none none hthread .offWrite hready (.away rfl) nofun
  | _ =>
    rw [hs] at hk
    cases hk

/-- Whoever wants to read it waits for those who want it to themselves. -/
theorem Sound.canGo_startRead (h : Sound s) (hk : s.thread k = .calling request next a)
    (stage : Callers.Stage.Next ⟨request, outcomes capacity none none⟩ a .startRead b) :
    CanGo capacity s := by
  by_cases ha : ∃ j, (s.thread j).stage.awaitsWrite = true
  · obtain ⟨j, hj⟩ := ha
    exact h.canGo_awaitsWrite hj
  by_cases hw : ∃ j, (s.thread j).stage.writes = true
  · obtain ⟨j, hj⟩ := hw
    exact h.canGo_writes hj
  have hwriter := h.callers.writer_eq_none fun j => Bool.eq_false_iff.mpr fun hj => hw ⟨j, hj⟩
  exact ⟨_, _, .act hk stage hwriter (.away rfl),
    fun j => Bool.eq_false_iff.mpr fun hj => ha ⟨j, hj⟩⟩

/-- Whoever switches waits for those who use the handle, and for the client that it closes. -/
theorem Sound.canGo_locks (h : Sound s) (hk : (s.thread k).stage.locks = true) :
    CanGo capacity s := by
  have hborn : (s.thread k).stage ≠ .unborn := fun e => by
    rw [e] at hk
    cases hk
  cases ha : (s.thread k).stage.waits with
  | false => exact h.canGo_active hborn ha
  | true =>
    cases hs : (s.thread k).stage with
    | onEnter config =>
      obtain ⟨request, next, hthread⟩ := Thread.calling_of_stage hs nofun
      exact h.canGo_startRead hthread .onRead
    | onCreated live => exact h.canGo_awaitsWrite (k := k) (by rw [hs]; rfl)
    | offEnter => exact h.canGo_awaitsWrite (k := k) (by rw [hs]; rfl)
    | offClose live =>
      refine h.canGo_inClient (k := k) (v := .close) (by rw [hs]; rfl) ?_
      rw [hs]
      exact if_pos rfl
    | _ =>
      rw [hs] at hk ha
      first | cases hk; done | cases ha

/-- Whoever wants to switch waits for the one who does. -/
theorem Sound.canGo_lock (h : Sound s) (hk : s.thread k = .calling request next a)
    (stage : Callers.Stage.Next ⟨request, outcomes capacity none none⟩ a .lock b) :
    CanGo capacity s := by
  cases ht : s.shared.transition with
  | none => exact canGo_act none none hk stage ht (.away rfl) nofun
  | some j => exact h.canGo_locks ((h.callers.transition j).mp ht)

/-- Between calls nothing is waited for. -/
theorem canGo_between {rest : Visitors.Script} (hk : s.thread k = .between rest) :
    CanGo capacity s := by
  have goes {cap : Nat} {p : Thread} (h : Thread.Goes s.cap (.between rest) cap p) :
      CanGo capacity s :=
    ⟨_, _, .go (hk ▸ h), trivial⟩
  cases rest with
  | done reply => exact goes .finish
  | call c next => exact goes .call
  | load next => exact goes .load
  | store cap next => exact goes .store

theorem Sound.canGo (h : Sound s) (hk : s.thread k ≠ .idle) : CanGo capacity s := by
  cases hp : s.thread k with
  | idle => exact absurd hp hk
  | between rest => exact canGo_between hp
  | calling request next a =>
    have hs : (s.thread k).stage = a := by
      rw [hp]
      rfl
    cases a with
    | onStart config => exact h.canGo_lock hp .onLock
    | offStart => exact h.canGo_lock hp .offLock
    | onEnter config => exact h.canGo_startRead hp .onRead
    | readStart q => exact h.canGo_startRead hp .read
    | onCreated live => exact h.canGo_awaitsWrite (k := k) (by rw [hs]; rfl)
    | offEnter => exact h.canGo_awaitsWrite (k := k) (by rw [hs]; rfl)
    | offClose live => exact h.canGo_locks (k := k) (by rw [hs]; rfl)
    | trackRun live event props => exact h.canGo_reads (k := k) (by rw [hs]; rfl)
    | _ => exact h.canGo_free hp rfl

/-- **Nobody is stuck: as long as any thread makes an operation, some thread or some client's worker
can take a step, and needs no lock to read that another waits to write.** -/
theorem Reachable.exists_step (h : Reachable capacity s) (hk : s.thread k ≠ .idle) :
    ∃ m t, Step capacity s m t ∧ m.Polite s :=
  h.sound.canGo hk

end

/-! ### two who wait -/

section
variable {request : Callers.Request} {next : Callers.Answer → Visitors.Script}
  {act : Callers.Act} {a b : Callers.Stage} {client : Nat → Option (Client κ)}

theorem Reachable.go (h : Reachable capacity s) (k : κ) {cap : Nat} {p : Thread}
    (goes : Thread.Goes s.cap (s.thread k) cap p) : Reachable capacity ({ s with cap }.to k p) :=
  h.step (.go goes)

theorem Reachable.move (h : Reachable capacity s) (k : κ)
    (hk : s.thread k = .calling request next a)
    (stage : Callers.Stage.Next ⟨request, outcomes capacity none none⟩ a act b)
    (ready : act.Ready s.shared) (meets : Meets capacity k s.client act client) :
    Reachable capacity (s.acted k act (.calling request next b) client) :=
  h.step (.act hk stage ready meets)

/-- One thread has switched on and is back; the next one is about to read the sender of the client,
a third one wants to switch off, and a fourth one wants to know whether reporting is on. -/
theorem reachable_waiting : ∃ s : State Nat, Reachable 0 s ∧
    (s.thread 1).stage = .trackRun ⟨1, Delivery.someConfig⟩ "user_raise_hand" [] ∧
    (s.thread 2).stage = .offEnter ∧ (s.thread 3).stage = .readStart .isEnabled := by
  obtain ⟨endpoint, hc⟩ := Delivery.create_narrow
  have hmade : (outcomes 0 none none).create Delivery.someConfig = none := by
    simp [outcomes, Sink.outcomes, hc]
  have h : Reachable (κ := Nat) 0 { cap := 25 } := .start 25
  have h := h.begin (k := 0) rfl (.manage (.enable Delivery.someConfig)) .good
  have h := h.go 0 .call
  have h := h.move 0 rfl .begin trivial (.away rfl)
  have h := h.move 0 rfl .onLock rfl (.away rfl)
  have h := h.move 0 rfl .onRead rfl (.away rfl)
  have h := h.move 0 rfl .onLook rfl (.away rfl)
  have h := h.move 0 rfl .onAbsent trivial (.away rfl)
  have h := h.move 0 rfl .onCreate trivial (.away rfl)
  have h := h.move 0 rfl (.onCreated (n := 1) hmade) rfl (.create hc)
  have h := h.move 0 rfl .onWrite ⟨rfl, rfl⟩ (.away rfl)
  have h := h.move 0 rfl .onPut trivial (.away rfl)
  have h := h.move 0 rfl .onDone trivial (.away rfl)
  have h := h.move 0 rfl .unlock trivial (.away rfl)
  have h := h.move 0 rfl .finish trivial (.away rfl)
  have h := h.go 0 .back
  have h := h.go 0 .finish
  -- the client is live, and the next thread enters it
  have h := h.begin (k := 1) rfl (.manage (.track "user_raise_hand" [])) .good
  have h := h.go 1 .call
  have h := h.move 1 rfl .begin trivial (.away rfl)
  have h := h.move 1 rfl .read rfl (.away rfl)
  have h := h.move 1 rfl .look rfl (.away rfl)
  have h := h.move 1 rfl .track trivial (.startTrack rfl ⟨"1", "2026-01-01T00:00:00Z"⟩)
  -- the others wait for it, one to write and one behind that to read
  have h := h.begin (k := 2) rfl (.manage .disable) .good
  have h := h.go 2 .call
  have h := h.move 2 rfl .begin trivial (.away rfl)
  have h := h.move 2 rfl .offLock rfl (.away rfl)
  have h := h.begin (k := 3) rfl (.manage .isEnabled) .good
  have h := h.go 3 .call
  have h := h.move 3 rfl .begin trivial (.away rfl)
  exact ⟨_, h, rfl, rfl, rfl⟩

/-- Also there somebody can go on, though one waits to write and another must not read before. -/
theorem exists_step_waiting : ∃ s : State Nat, Reachable 0 s ∧
    (s.thread 2).stage = .offEnter ∧ (s.thread 3).stage = .readStart .isEnabled ∧
    s.thread 2 ≠ .idle ∧ ∃ m t, Step 0 s m t ∧ m.Polite s := by
  obtain ⟨s, h, -, hoff, hread⟩ := reachable_waiting
  have hbusy : s.thread 2 ≠ .idle := fun e => by
    rw [e] at hoff
    cases hoff
  exact ⟨s, h, hoff, hread, hbusy, h.exists_step hbusy⟩

end

end Threads

end TelemetryGate
