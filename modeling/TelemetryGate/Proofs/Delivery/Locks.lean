import TelemetryGate.Proofs.Delivery.Program

/-!
# What the lock of the sender keeps

* `Item.offer_of_*`      what comes of offering an item;
* `Act.sink_cases`       what an act does to the client;
* `Guarded`              lock and stages agree, and whoever is about to send has a sender;
* `Step.act_or_work`     a step is an act of a caller or a labour of the worker;
* `Reachable.guarded`    the lock is kept at every time.
-/

namespace TelemetryGate.Delivery

variable {κ : Type}

/-! ### what acts do to the client -/

section
variable {x : Item} {sink : Sink} {act : Act} {s : State κ}

/-- The client with the item at the end of its queue. -/
def Item.pushed (x : Item) (s : Sink) : Sink :=
  { s with queue := { s.queue with waiting := s.queue.waiting ++ [x.payload s] } }

theorem Item.offer_of_shut (h : sink.queue.isOpen = false) : x.offer sink = .error .closed := by
  unfold offer Sink.track Queue.offer
  rw [h]
  rfl

theorem Item.offer_of_full (ho : sink.queue.isOpen = true)
    (h : sink.queue.room ≤ sink.queue.waiting.length) : x.offer sink = .error .queueFull := by
  unfold offer Sink.track Queue.offer
  rw [ho, if_neg (by decide), if_pos h]
  rfl

theorem Item.offer_of_room (ho : sink.queue.isOpen = true)
    (h : sink.queue.waiting.length < sink.queue.room) : x.offer sink = .ok (x.pushed sink) := by
  have hopen : ¬ (!sink.queue.isOpen) = true := by
    rw [ho]
    decide
  unfold offer Sink.track Queue.offer
  rw [if_neg hopen, if_neg (Nat.not_le.mpr h)]
  rfl

/-- An offer is taken, or it leaves the client as it is. -/
theorem Item.offer_cases (x : Item) (sink : Sink) :
    (sink.queue.isOpen = false ∧ x.answer sink = .error .closed ∧ x.offered sink = sink) ∨
    (sink.queue.isOpen = true ∧ sink.queue.room ≤ sink.queue.waiting.length ∧
      x.answer sink = .error .queueFull ∧ x.offered sink = sink) ∨
    (sink.queue.isOpen = true ∧ sink.queue.waiting.length < sink.queue.room ∧
      x.answer sink = .ok () ∧ x.offered sink = x.pushed sink) := by
  unfold answer offered
  cases ho : sink.queue.isOpen with
  | false =>
    rw [offer_of_shut ho]
    exact .inl ⟨rfl, rfl, rfl⟩
  | true =>
    by_cases h : sink.queue.room ≤ sink.queue.waiting.length
    · rw [offer_of_full ho h]
      exact .inr (.inl ⟨rfl, h, rfl, rfl⟩)
    · have hlt := Nat.not_le.mp h
      rw [offer_of_room ho hlt]
      exact .inr (.inr ⟨rfl, hlt, rfl, rfl⟩)

/-- An act leaves the client as it is, takes its sender, or puts an item into the queue. -/
theorem Act.sink_cases (ready : act.Ready s) (k : κ) :
    (act.sink s.sink = s.sink ∧ (Event.call k act).queued = []) ∨
    (act = .takeSender ∧ act.sink s.sink = s.sink.close) ∨
    ∃ x, act = .send x (.ok ()) ∧ s.sink.queue.isOpen = true ∧
      s.sink.queue.waiting.length < s.sink.queue.room ∧ act.sink s.sink = x.pushed s.sink := by
  cases act with
  | send x answer =>
    have hanswer : x.answer s.sink = answer := ready
    rcases x.offer_cases s.sink with ⟨_, ha, hs⟩ | ⟨_, _, ha, hs⟩ | ⟨ho, hlt, ha, hs⟩
    · rw [ha] at hanswer
      exact .inl ⟨hs, by rw [← hanswer]; rfl⟩
    · rw [ha] at hanswer
      exact .inl ⟨hs, by rw [← hanswer]; rfl⟩
    · rw [ha] at hanswer
      exact .inr (.inr ⟨x, by rw [← hanswer], ho, hlt, hs⟩)
  | takeSender => exact .inr (.inl ⟨rfl, rfl⟩)
  | _ => exact .inl ⟨rfl, rfl⟩

theorem Act.isOpen_sink (h : act ≠ .takeSender) (sink : Sink) :
    (act.sink sink).queue.isOpen = sink.queue.isOpen := by
  cases act with
  | send x answer =>
    show (x.offered sink).queue.isOpen = _
    rcases x.offer_cases sink with ⟨_, _, hs⟩ | ⟨_, _, _, hs⟩ | ⟨_, _, _, hs⟩
    · rw [hs]
    · rw [hs]
    · rw [hs]
      rfl
  | takeSender => exact absurd rfl h
  | _ => rfl

theorem isOpen_take (sink : Sink) : sink.take.queue.isOpen = sink.queue.isOpen := by
  show sink.queue.take.isOpen = _
  unfold Queue.take
  split <;> rfl

end

/-! ### what a stage holds and knows -/

/-- whether the lock of the sender is held to read -/
def Stage.reads : Stage → Bool
  | trackLook _ | trackSend _ | trackDone _ _ => true
  | _ => false

/-- whether it is held to write -/
def Stage.writes : Stage → Bool
  | closeTake | closeTaken => true
  | _ => false

/-- whether the lock of the sender is held -/
def Stage.holds (a : Stage) : Bool := a.reads || a.writes

/-- whether the sender is known to be gone -/
def Stage.shut : Stage → Bool
  | closeTaken | closeWorker | closeJoin | closeLeaving | closed => true
  | _ => false

section
variable {a b : Stage} {act : Act} {s t : State κ} {j k : κ}

theorem Stage.Next.writer_iff (next : Stage.Next a act b)
    (h : s.writer = some j ↔ a.writes = true) :
    act.writer j s.writer = some j ↔ b.writes = true := by
  cases next with
  | write => exact iff_of_true rfl rfl
  | writeDone => exact iff_of_false (fun e => nomatch e) (fun e => nomatch e)
  | _ => exact h

theorem Stage.Next.writer_other (next : Stage.Next a act b) (ready : act.Ready s)
    (h : s.writer = some j ↔ a.writes = true) (hk : k ≠ j) :
    act.writer j s.writer = some k ↔ s.writer = some k := by
  have hj : some j ≠ some k := fun e => hk (Option.some.inj e).symm
  cases next with
  | write =>
    refine iff_of_false hj fun e => ?_
    rw [ready.1] at e
    cases e
  | writeDone =>
    refine iff_of_false (fun e => nomatch e) ?_
    rw [h.mpr rfl]
    exact hj
  | _ => exact Iff.rfl

/-- Lock and stages agree, writing excludes reading; whoever is about to send has a sender, and
whoever took it knows that it is gone. -/
structure Guarded (s : State κ) : Prop where
  writer : ∀ k, s.writer = some k ↔ (s.stage k).writes = true
  readers : ∀ k, k ∈ s.readers ↔ (s.stage k).reads = true
  apart : s.writer = none ∨ s.readers = ∅
  sends : ∀ k x, s.stage k = .trackSend x → s.sink.queue.isOpen = true
  shut : ∀ k, (s.stage k).shut = true → s.sink.queue.isOpen = false

/-- While one caller writes, nobody reads. -/
theorem Guarded.not_reads (h : Guarded s) (hj : (s.stage j).writes = true) (k : κ) :
    (s.stage k).reads = false := by
  cases hr : (s.stage k).reads with
  | false => rfl
  | true =>
    have hw := (h.writer j).mpr hj
    have hm := (h.readers k).mpr hr
    rcases h.apart with e | e
    · rw [e] at hw
      cases hw
    · rw [e] at hm
      cases hm

theorem Guarded.writer_eq_none (h : Guarded s) (hno : ∀ j, (s.stage j).writes = false) :
    s.writer = none := by
  refine Option.eq_none_iff_forall_ne_some.mpr fun j hj => ?_
  have hw := (h.writer j).mp hj
  rw [hno j] at hw
  cases hw

theorem Guarded.readers_eq_empty (h : Guarded s) (hno : ∀ j, (s.stage j).reads = false) :
    s.readers = ∅ := by
  refine Finset.eq_empty_of_forall_notMem fun j hj => ?_
  have hr := (h.readers j).mp hj
  rw [hno j] at hr
  cases hr

theorem Guarded.not_writes (h : Guarded s) (hw : s.writer = none) (j : κ) :
    (s.stage j).writes = false := by
  refine Bool.eq_false_iff.mpr fun hj => ?_
  rw [(h.writer j).mpr hj] at hw
  cases hw

theorem Guarded.worked (h : Guarded s) {sink : Sink} (labour : Labour) (worker : Worker)
    (ho : sink.queue.isOpen = s.sink.queue.isOpen) : Guarded (s.worked labour sink worker) where
  writer := h.writer
  readers := h.readers
  apart := h.apart
  sends k x hk := ho.trans (h.sends k x hk)
  shut k hk := ho.trans (h.shut k hk)

variable [DecidableEq κ]

theorem Stage.Next.readers_iff (next : Stage.Next a act b)
    (h : j ∈ s.readers ↔ a.reads = true) :
    j ∈ act.readers j s.readers ↔ b.reads = true := by
  cases next with
  | read => exact iff_of_true (Finset.mem_insert_self ..) rfl
  | readDone => exact iff_of_false (Finset.notMem_erase j s.readers) (fun e => nomatch e)
  | _ => exact h

theorem Act.readers_other (hk : k ≠ j) (before : Finset κ) :
    k ∈ Act.readers j before act ↔ k ∈ before := by
  cases act with
  | startRead => simp [Act.readers, hk]
  | endRead => simp [Act.readers, hk]
  | _ => exact Iff.rfl

theorem Act.apart_after (ready : act.Ready s) (h : s.writer = none ∨ s.readers = ∅) :
    act.writer j s.writer = none ∨ act.readers j s.readers = ∅ := by
  cases act with
  | startRead => exact .inl ready
  | startWrite => exact .inr ready.2
  | endRead =>
    rcases h with h | h
    · exact .inl h
    · exact .inr (by simp [Act.readers, h])
  | endWrite => exact .inl rfl
  | _ => exact h

/-! ### every state -/

/-- A step is an act of a caller, or a labour of the worker, which leaves the lock, the callers
and whether the queue is open as they are. -/
theorem Step.act_or_work (st : Step s t) :
    (∃ k act b, act.Ready s ∧ Stage.Next (s.stage k) act b ∧ t = s.after k act b) ∨
    ∃ labour sink worker, t = s.worked labour sink worker ∧ s.worker ≠ .stopped ∧
      sink.queue.isOpen = s.sink.queue.isOpen := by
  cases st with
  | call ready next => exact .inl ⟨_, _, _, ready, next, rfl⟩
  | receive hw hq => exact .inr ⟨_, _, _, rfl, by simp [hw], isOpen_take s.sink⟩
  | startPost hw => exact .inr ⟨_, _, _, rfl, by simp [hw], rfl⟩
  | endPost hw reply => exact .inr ⟨_, _, _, rfl, by simp [hw], rfl⟩
  | stop hw hq ho => exact .inr ⟨_, _, _, rfl, by simp [hw], rfl⟩

theorem Guarded.call (h : Guarded s) (ready : act.Ready s) (next : Stage.Next (s.stage j) act b) :
    Guarded (s.after j act b) := by
  constructor
  · intro k
    by_cases e : k = j
    · subst e
      rw [State.stage_after_self]
      exact next.writer_iff (h.writer k)
    · rw [State.stage_after_of_ne s e, ← h.writer k]
      exact next.writer_other ready (h.writer j) e
  · intro k
    by_cases e : k = j
    · subst e
      rw [State.stage_after_self]
      exact next.readers_iff (h.readers k)
    · rw [State.stage_after_of_ne s e, ← h.readers k]
      exact Act.readers_other e s.readers
  · exact Act.apart_after ready h.apart
  · intro k x hk
    show (act.sink s.sink).queue.isOpen = true
    by_cases e : k = j
    · subst e
      rw [State.stage_after_self] at hk
      generalize s.stage k = a at next
      subst hk
      cases next
      exact ready
    · rw [State.stage_after_of_ne s e] at hk
      have hopen := h.sends k x hk
      rwa [Act.isOpen_sink fun ht => ?_]
      -- whoever takes the sender writes, and whoever sends reads
      subst ht
      have hw : (s.stage j).writes = true := by
        generalize s.stage j = a at next
        cases next
        rfl
      have hr := h.not_reads hw k
      rw [hk] at hr
      cases hr
  · intro k hk
    show (act.sink s.sink).queue.isOpen = false
    by_cases ht : act = .takeSender
    · subst ht
      rfl
    · rw [Act.isOpen_sink ht]
      by_cases e : k = j
      · subst e
        rw [State.stage_after_self] at hk
        refine h.shut k ?_
        generalize s.stage k = a at next
        cases next with
        | takeSender => exact absurd rfl ht
        | _ => first | rfl | cases hk
      · rw [State.stage_after_of_ne s e] at hk
        exact h.shut k hk

theorem Guarded.step (h : Guarded s) (st : Step s t) : Guarded t := by
  rcases st.act_or_work with ⟨k, act, b, ready, next, rfl⟩ | ⟨labour, sink, worker, rfl, -, ho⟩
  · exact h.call ready next
  · exact h.worked labour worker ho

variable {sink : Sink}

theorem Reachable.guarded (h : Reachable sink s) : Guarded s := by
  induction h with
  | start =>
    refine ⟨fun k => ?_, fun k => ?_, .inl rfl, fun k x hk => ?_, fun k hk => ?_⟩
    · exact iff_of_false (fun e => nomatch e) (fun e => nomatch e)
    · exact iff_of_false (Finset.notMem_empty k) (fun e => nomatch e)
    · cases hk
    · cases hk
  | step _ st ih => exact ih.step st

end

end TelemetryGate.Delivery
