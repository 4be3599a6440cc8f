import TelemetryGate.Proofs.Delivery.Answers

/-!
# Every call can return

* `Calls`, `Works`          callers alone go on, or the worker alone;
* `Calls.still`             once the worker is taken, callers leave client and worker as they are;
* `Guarded.exists_freed`    whoever holds the lock can let go of it;
* `Ledger.exists_drained`   a worker that is left alone can drain the queue;
* `Reachable.exists_reply`  every call can return, from every state;
* `Guarded.exists_closed`   once the worker is taken, any other close can return without it.
-/

namespace TelemetryGate.Delivery

variable {κ : Type}

/-! ### a client without its sender -/

section
variable {s : Sink} {x : Item}

theorem Item.offered_of_shut (h : s.queue.isOpen = false) : x.offered s = s := by
  unfold offered
  rw [offer_of_shut h]

theorem close_of_shut (h : s.queue.isOpen = false) : s.close = s := by
  obtain ⟨config, endpoint, capacity, waiting, inHand, isOpen⟩ := s
  have he : isOpen = false := h
  subst he
  rfl

theorem Act.sink_of_shut (h : s.queue.isOpen = false) (act : Act) : act.sink s = s := by
  cases act with
  | send x answer => exact Item.offered_of_shut h
  | takeSender => exact close_of_shut h
  | _ => rfl

end

theorem Act.joinable_of_taken (act : Act) : act.joinable false = false := by
  cases act <;> rfl

/-! ### callers alone -/

/-- Nothing has changed at the client and its worker: nothing was queued or posted either. -/
structure Still (s t : State κ) : Prop where
  sink : t.sink = s.sink
  worker : t.worker = s.worker
  joinable : t.joinable = s.joinable
  queued : queued t.past = queued s.past
  begun : begun t.past = begun s.past
  posted : posted t.past = posted s.past

theorem Still.refl (s : State κ) : Still s s := ⟨rfl, rfl, rfl, rfl, rfl, rfl⟩

section
variable [DecidableEq κ] {sink : Sink} {s t u : State κ} {act : Act} {a b : Stage} {j k : κ}

/-- Callers go on, and the worker does not. -/
inductive Calls : State κ → State κ → Prop
  | refl {s : State κ} : Calls s s
  | tail {s t : State κ} {k : κ} {act : Act} {b : Stage} (h : Calls s t) (ready : act.Ready t)
    (next : Stage.Next (t.stage k) act b) : Calls s (t.after k act b)

theorem Calls.run (h : Calls s t) : Run s t := by
  induction h with
  | refl => exact .refl
  | tail _ ready next ih => exact ih.tail (.call ready next)

theorem Calls.trans (h : Calls s t) (h' : Calls t u) : Calls s u := by
  induction h' with
  | refl => exact h
  | tail _ ready next ih => exact ih.tail ready next

theorem Calls.guarded (hs : Guarded s) (h : Calls s t) : Guarded t := by
  induction h with
  | refl => exact hs
  | tail _ ready next ih => exact ih.call ready next

theorem Still.after (h : Still s t) (ho : s.sink.queue.isOpen = false) (hj : s.joinable = false)
    (ready : act.Ready t) (k : κ) (b : Stage) : Still s (t.after k act b) := by
  have hshut : t.sink.queue.isOpen = false := by rw [h.sink, ho]
  have hnone : (Event.call k act).queued = [] := by
    rcases act.sink_cases ready k with ⟨_, h⟩ | ⟨rfl, _⟩ | ⟨_, _, hopen, _⟩
    · exact h
    · rfl
    · rw [hshut] at hopen
      cases hopen
  refine ⟨?_, h.worker, ?_, ?_, ?_, ?_⟩
  · show act.sink t.sink = s.sink
    rw [Act.sink_of_shut hshut, h.sink]
  · show act.joinable t.joinable = s.joinable
    rw [h.joinable, hj, act.joinable_of_taken]
  · exact (queued_of_nil _ hnone).trans h.queued
  · exact (begun_of_nil _ rfl).trans h.begun
  · exact (posted_of_nil _ rfl).trans h.posted

/-- Once the worker is taken, callers leave client and worker as they are. -/
theorem Calls.still (h : Calls s t) (ho : s.sink.queue.isOpen = false) (hj : s.joinable = false) :
    Still s t := by
  induction h with
  | refl => exact .refl _
  | tail _ ready next ih => exact ih.after ho hj ready _ _

theorem Calls.joinable_before (h : Calls s t) (hj : t.joinable = true) : s.joinable = true := by
  induction h with
  | refl => exact hj
  | @tail t k act b _ ready next ih =>
    have hact : act.joinable t.joinable = true := hj
    refine ih ?_
    cases ht : t.joinable with
    | true => rfl
    | false =>
      rw [ht, act.joinable_of_taken] at hact
      cases hact

/-- One caller goes on alone, to a stage. -/
structure Alone (s : State κ) (k : κ) (a : Stage) (t : State κ) : Prop where
  calls : Calls s t
  here : t.stage k = a
  others : ∀ j, j ≠ k → t.stage j = s.stage j

theorem Alone.start (h : s.stage k = a) : Alone s k a s := ⟨.refl, h, fun _ _ => rfl⟩

theorem Alone.go (h : Alone s k a t) (next : Stage.Next a act b) (ready : act.Ready t) :
    Alone s k b (t.after k act b) where
  calls := h.calls.tail ready (h.here ▸ next)
  here := State.stage_after_self ..
  others j e := (State.stage_after_of_ne t e act b).trans (h.others j e)

/-! ### letting go of the lock -/

/-- Whoever reads can go on until it reads no more. -/
theorem exists_endReading (hk : (s.stage k).reads = true) :
    ∃ t x answer, Alone s k (.trackLeaving x answer) t := by
  have ofDone {t x answer} (h : Alone s k (.trackDone x answer) t) :
      ∃ t x answer, Alone s k (.trackLeaving x answer) t :=
    ⟨_, x, answer, h.go .readDone trivial⟩
  have ofSend {t x} (h : Alone s k (.trackSend x) t) := ofDone (h.go .send rfl)
  cases hs : s.stage k with
  | trackLook x =>
    cases ho : s.sink.queue.isOpen with
    | true => exact ofSend ((Alone.start hs).go .look ho)
    | false => exact ofDone ((Alone.start hs).go .lookNone ho)
  | trackSend x => exact ofSend (.start hs)
  | trackDone x answer => exact ofDone (.start hs)
  | _ =>
    rw [hs] at hk
    cases hk

/-- Whoever writes can go on until it writes no more. -/
theorem exists_endWriting (hk : (s.stage k).writes = true) : ∃ t, Alone s k .closeWorker t := by
  have ofTaken {t} (h : Alone s k .closeTaken t) : ∃ t, Alone s k .closeWorker t :=
    ⟨_, h.go .writeDone trivial⟩
  cases hs : s.stage k with
  | closeTake => exact ofTaken ((Alone.start hs).go .takeSender trivial)
  | closeTaken => exact ofTaken (.start hs)
  | _ =>
    rw [hs] at hk
    cases hk

/-- Nobody holds the lock, and whoever did not is where it was. -/
structure Freed (s t : State κ) : Prop where
  calls : Calls s t
  writer : t.writer = none
  readers : t.readers = ∅
  stage : ∀ j, (s.stage j).holds = false → t.stage j = s.stage j

theorem Alone.stage_of_free (h : Alone s k a t) (hk : (s.stage k).holds = true)
    (hj : (s.stage j).holds = false) : t.stage j = s.stage j := by
  refine h.others j ?_
  rintro rfl
  rw [hk] at hj
  cases hj

/-- Each reader lets go of the lock in turn. -/
theorem Guarded.exists_freed_of_readers (h : Guarded s) (hw : s.writer = none) :
    ∃ t, Freed s t := by
  generalize hr : s.readers = readers
  induction readers using Finset.induction_on generalizing s with
  | empty => exact ⟨s, .refl, hw, hr, fun _ _ => rfl⟩
  | @insert k readers hk ih =>
    have hreads : (s.stage k).reads = true := (h.readers k).mp (by simp [hr])
    obtain ⟨t, x, answer, ht⟩ := exists_endReading hreads
    have hg := ht.calls.guarded h
    have hwriter : t.writer = none := by
      refine hg.writer_eq_none fun j => ?_
      by_cases e : j = k
      · rw [e, ht.here]
        rfl
      · rw [ht.others j e]
        exact h.not_writes hw j
    have hreaders : t.readers = readers := by
      ext j
      by_cases e : j = k
      · rw [e, hg.readers, ht.here]
        exact iff_of_false (fun e => nomatch e) hk
      · rw [hg.readers, ht.others j e, ← h.readers, hr, Finset.mem_insert, or_iff_right e]
    obtain ⟨u, hu⟩ := ih hg hwriter hreaders
    refine ⟨u, ht.calls.trans hu.calls, hu.writer, hu.readers, fun j hj => ?_⟩
    have hstage := ht.stage_of_free (by rw [Stage.holds, hreads]; rfl) hj
    rw [hu.stage j (by rw [hstage, hj]), hstage]

/-- Callers can go on until nobody holds the lock. -/
theorem Guarded.exists_freed (h : Guarded s) : ∃ t, Freed s t := by
  cases hw : s.writer with
  | none => exact h.exists_freed_of_readers hw
  | some k =>
    have hwrites := (h.writer k).mp hw
    obtain ⟨t, ht⟩ := exists_endWriting hwrites
    have hg := ht.calls.guarded h
    refine ⟨t, ht.calls, hg.writer_eq_none fun j => ?_, hg.readers_eq_empty fun j => ?_,
      fun j hj => ht.stage_of_free (by rw [Stage.holds, hwrites, Bool.or_true]) hj⟩
    · by_cases e : j = k
      · rw [e, ht.here]
        rfl
      · rw [ht.others j e]
        refine Bool.eq_false_iff.mpr fun hj => e ?_
        exact Option.some.inj (((h.writer j).mpr hj).symm.trans hw)
    · by_cases e : j = k
      · rw [e, ht.here]
        rfl
      · rw [ht.others j e]
        exact h.not_reads hwrites j

/-! ### calls that return -/

/-- Whoever tracks can return. -/
theorem Guarded.exists_tracked (h : Guarded s) {x : Item}
    (hk : (s.stage k).call = some (.track x)) :
    ∃ t answer, Calls s t ∧ (t.stage k).reply = some answer := by
  have ofLeaving {t y answer} (h : Calls s t) (ht : t.stage k = .trackLeaving y answer) :
      ∃ t answer, Calls s t ∧ (t.stage k).reply = some answer := by
    have hgone := (Alone.start ht).go .tracked trivial
    exact ⟨_, answer, h.trans hgone.calls, by rw [hgone.here]; rfl⟩
  have ofReading {t} (h : Calls s t) (ht : (t.stage k).reads = true) :
      ∃ t answer, Calls s t ∧ (t.stage k).reply = some answer := by
    obtain ⟨u, y, answer, hu⟩ := exists_endReading ht
    exact ofLeaving (h.trans hu.calls) hu.here
  cases hs : s.stage k with
  | trackStart y =>
    obtain ⟨t, ht⟩ := h.exists_freed
    have hstage : t.stage k = .trackStart y := by rw [ht.stage k (by rw [hs]; rfl), hs]
    have hread := (Alone.start hstage).go .read ht.writer
    exact ofReading (ht.calls.trans hread.calls) (by rw [hread.here]; rfl)
  | trackLook y => exact ofReading .refl (by rw [hs]; rfl)
  | trackSend y => exact ofReading .refl (by rw [hs]; rfl)
  | trackDone y answer => exact ofReading .refl (by rw [hs]; rfl)
  | trackLeaving y answer => exact ofLeaving .refl hs
  | tracked y answer => exact ⟨s, answer, .refl, by rw [hs]; rfl⟩
  | _ =>
    rw [hs] at hk
    cases hk

/-- By callers alone, a caller can come to the end of its close, or else wait for the worker,
which nobody else took before. -/
def ClosesOrJoins (s : State κ) (k : κ) : Prop :=
  ∃ t, Calls s t ∧ (t.stage k = .closed ∨
    t.stage k = .closeJoin ∧ (s.stage k = .closeJoin ∨ s.joinable = true))

theorem Guarded.closesOrJoins (h : Guarded s) (hk : (s.stage k).call = some .close) :
    ClosesOrJoins s k := by
  have ofLeaving {t} (h : Calls s t) (ht : t.stage k = .closeLeaving) :
      ClosesOrJoins s k := by
    have hgone := (Alone.start ht).go .closed trivial
    exact ⟨_, h.trans hgone.calls, .inl hgone.here⟩
  have ofWorker {t} (h : Calls s t) (ht : t.stage k = .closeWorker) :
      ClosesOrJoins s k := by
    cases hj : t.joinable with
    | true =>
      have hgone := (Alone.start ht).go .takeWorker hj
      exact ⟨_, h.trans hgone.calls, .inr ⟨hgone.here, .inr (h.joinable_before hj)⟩⟩
    | false =>
      have hgone := (Alone.start ht).go .noWorker hj
      exact ofLeaving (h.trans hgone.calls) hgone.here
  have ofWriting {t} (h : Calls s t) (ht : (t.stage k).writes = true) :
      ClosesOrJoins s k := by
    obtain ⟨u, hu⟩ := exists_endWriting ht
    exact ofWorker (h.trans hu.calls) hu.here
  cases hs : s.stage k with
  | closeStart =>
    obtain ⟨t, ht⟩ := h.exists_freed
    have hstage : t.stage k = .closeStart := by rw [ht.stage k (by rw [hs]; rfl), hs]
    have hwrite := (Alone.start hstage).go .write ⟨ht.writer, ht.readers⟩
    exact ofWriting (ht.calls.trans hwrite.calls) (by rw [hwrite.here]; rfl)
  | closeTake => exact ofWriting .refl (by rw [hs]; rfl)
  | closeTaken => exact ofWriting .refl (by rw [hs]; rfl)
  | closeWorker => exact ofWorker .refl hs
  | closeJoin => exact ⟨s, .refl, .inr ⟨hs, .inl hs⟩⟩
  | closeLeaving => exact ofLeaving .refl hs
  | closed => exact ⟨s, .refl, .inl hs⟩
  | _ =>
    rw [hs] at hk
    cases hk

end

/-! ### the worker alone -/

/-- The worker has gone on, and callers have not. -/
structure Works (s t : State κ) [DecidableEq κ] : Prop where
  run : Run s t
  stage : t.stage = s.stage
  queued : queued t.past = queued s.past
  isOpen : t.sink.queue.isOpen = s.sink.queue.isOpen

section
variable [DecidableEq κ] {sink : Sink} {s t u : State κ} {k : κ}

theorem Works.refl (s : State κ) : Works s s := ⟨.refl, rfl, rfl, rfl⟩

theorem Works.trans (h : Works s t) (h' : Works t u) : Works s u :=
  ⟨h.run.trans h'.run, h'.stage.trans h.stage, h'.queued.trans h.queued,
    h'.isOpen.trans h.isOpen⟩

theorem Works.go (h : Works s t) {labour : Labour} {sink' : Sink} {worker : Worker}
    (st : Step t (t.worked labour sink' worker))
    (ho : sink'.queue.isOpen = t.sink.queue.isOpen) : Works s (t.worked labour sink' worker) where
  run := h.run.tail st
  stage := h.stage
  queued := (queued_worked ..).trans h.queued
  isOpen := ho.trans h.isOpen

/-- The worker can come to rest with as much waiting as before. -/
theorem exists_idle (hw : s.worker ≠ .stopped) :
    ∃ t, Works s t ∧ t.worker = .idle ∧ t.sink.queue.waiting = s.sink.queue.waiting := by
  have ofPosting {t : State κ} {payload : String} (h : Works s t)
      (ht : t.worker = .posting payload) (hs : t.sink = s.sink) :
      ∃ t, Works s t ∧ t.worker = .idle ∧ t.sink.queue.waiting = s.sink.queue.waiting := by
    refine ⟨_, h.go (.endPost ht (.status 200)) rfl, rfl, ?_⟩
    rw [← hs]
    rfl
  cases hs : s.worker with
  | idle => exact ⟨s, .refl s, hs, rfl⟩
  | holding payload => exact ofPosting ((Works.refl s).go (.startPost hs) rfl) rfl rfl
  | posting payload => exact ofPosting (.refl s) hs rfl
  | stopped => exact absurd hs hw

/-- A worker at rest can take what waits, one after the other. -/
theorem Ledger.exists_empty (h : Ledger sink s) (hw : s.worker = .idle) :
    ∃ t, Works s t ∧ t.worker = .idle ∧ t.sink.queue.waiting = [] := by
  generalize hq : s.sink.queue.waiting = waiting
  induction waiting generalizing s with
  | nil => exact ⟨s, .refl s, hw, hq⟩
  | cons payload rest ih =>
    have hi : s.sink.queue.inHand = none := by
      rw [h.inHand, hw]
      rfl
    have received : Works s (s.worked (.receive payload) s.sink.take (.holding payload)) :=
      (Works.refl s).go (.receive hw hq) (isOpen_take s.sink)
    obtain ⟨t, ht, hidle, hwaiting⟩ :=
      exists_idle (s := s.worked (.receive payload) s.sink.take (.holding payload))
        (fun e => nomatch e)
    have hrest : t.sink.queue.waiting = rest := by
      rw [hwaiting]
      show s.sink.take.queue.waiting = rest
      rw [Sink.queue_take hi hq]
    obtain ⟨u, hu, hdone⟩ := ih (h.run (received.trans ht).run) hidle hrest
    exact ⟨u, (received.trans ht).trans hu, hdone⟩

theorem eq_drained {before after : Sink} (h : Same sink before) (h' : Same sink after)
    (hw : after.queue.waiting = []) (hi : after.queue.inHand = none)
    (ho : after.queue.isOpen = before.queue.isOpen) : after = before.drain.2 := by
  obtain ⟨config, endpoint, capacity, waiting, inHand, isOpen⟩ := after
  have hconfig : config = before.config := h'.config.trans h.config.symm
  have hendpoint : endpoint = before.endpoint := h'.endpoint.trans h.endpoint.symm
  have hcapacity : capacity = before.queue.capacity := h'.capacity.trans h.capacity.symm
  have hwaiting : waiting = [] := hw
  have hinHand : inHand = none := hi
  have hopen : isOpen = before.queue.isOpen := ho
  rw [hconfig, hendpoint, hcapacity, hwaiting, hinHand, hopen]
  rfl

/-- **A worker that is left alone can drain the queue.** -/
theorem Ledger.exists_drained (h : Ledger sink s) (hw : s.worker ≠ .stopped) :
    ∃ t, Works s t ∧ t.worker = .idle ∧ t.sink = s.sink.drain.2 ∧
      Delivery.posted t.past = Delivery.posted s.past ++ s.sink.drain.1 := by
  obtain ⟨r, hr, hrest, -⟩ := exists_idle hw
  obtain ⟨t, ht, hidle, hempty⟩ := (h.run hr.run).exists_empty hrest
  have hworks := hr.trans ht
  have hledger := h.run hworks.run
  have hi : t.sink.queue.inHand = none := by
    rw [hledger.inHand, hidle]
    rfl
  have hsink := eq_drained h.same hledger.same hempty hi hworks.isOpen
  refine ⟨t, hworks, hidle, hsink, ?_⟩
  have hposted := hledger.posted
  rw [hworks.queued, ← h.posted, hsink] at hposted
  exact (List.append_nil _).symm.trans hposted

/-- A worker whose client is closed can post all that waits, and stop. -/
theorem Ledger.exists_stopped (h : Ledger sink s) (ho : s.sink.queue.isOpen = false) :
    ∃ t, Run s t ∧ t.worker = .stopped ∧ t.stage = s.stage := by
  by_cases hw : s.worker = .stopped
  · exact ⟨s, .refl, hw, rfl⟩
  · obtain ⟨t, ht, hidle, hdrained, -⟩ := h.exists_drained hw
    have hq : t.sink.queue.waiting = [] := by
      rw [hdrained]
      rfl
    exact ⟨_, ht.run.tail (.stop hidle hq (ht.isOpen.trans ho)), rfl, ht.stage⟩

/-- Whoever waits for the worker can return. -/
theorem Ledger.exists_closed (h : Ledger sink s) (hg : Guarded s) (hk : s.stage k = .closeJoin) :
    ∃ t, Run s t ∧ t.stage k = .closed := by
  obtain ⟨t, ht, hstopped, hstage⟩ := h.exists_stopped (hg.shut k (by rw [hk]; rfl))
  have hjoin : t.stage k = .closeJoin := by rw [hstage, hk]
  have hgone := ((Alone.start hjoin).go .join hstopped).go .closed trivial
  exact ⟨_, ht.trans hgone.calls.run, hgone.here⟩

variable {capacity : Nat}

/-- **Every call can return, wherever all the others are.** -/
theorem Reachable.exists_reply (hnew : sink.queue = { capacity }) (h : Reachable sink s)
    (hk : s.stage k ≠ .outside) : ∃ t answer, Run s t ∧ (t.stage k).reply = some answer := by
  cases hcall : (s.stage k).call with
  | none => exact absurd (Stage.eq_outside hcall) hk
  | some began =>
    rcases Stage.call_cases hcall with ⟨x, rfl⟩ | rfl
    · obtain ⟨t, answer, ht, hreply⟩ := h.guarded.exists_tracked hcall
      exact ⟨t, answer, ht.run, hreply⟩
    · obtain ⟨t, ht, hclosed | ⟨hjoin, -⟩⟩ := h.guarded.closesOrJoins hcall
      · exact ⟨t, .ok (), ht.run, by rw [hclosed]; rfl⟩
      · have hreach := h.run ht.run
        obtain ⟨u, hu, hclosed⟩ := (hreach.ledger hnew).exists_closed hreach.guarded hjoin
        exact ⟨u, .ok (), ht.run.trans hu, by rw [hclosed]; rfl⟩

/-- Once the worker is taken, callers alone see to it that any other close returns. -/
theorem Guarded.exists_closed (h : Guarded s) (hj : s.joinable = false)
    (hk : (s.stage k).call = some .close) (hjoin : s.stage k ≠ .closeJoin) :
    ∃ t, Calls s t ∧ t.stage k = .closed := by
  obtain ⟨t, ht, hclosed | ⟨-, hwas | htrue⟩⟩ := h.closesOrJoins hk
  · exact ⟨t, ht, hclosed⟩
  · exact absurd hwas hjoin
  · rw [hj] at htrue
    cases htrue

end

end TelemetryGate.Delivery
