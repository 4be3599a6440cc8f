import TelemetryGate.Proofs.Delivery.Progress

/-!
# A client that is closed

* `Reachable.took_of_join`    who waits for the worker has taken it;
* `Reachable.taken`           who took it waits until it has stopped;
* `Run.still`                 after that nothing is queued or posted;
* `Accounted`                 what callers can rely on, who share a client;
* `Reachable.accounted`       they can, at every time.
-/

namespace TelemetryGate.Delivery

variable {κ : Type}

section
variable [DecidableEq κ] {sink : Sink} {s t : State κ} {k : κ}

/-! ### the one who took the worker -/

/-- Who waits for the worker has taken it. -/
theorem Reachable.took_of_join (h : Reachable sink s) (hk : s.stage k = .closeJoin) :
    .call k (.takeWorker true) ∈ s.past := by
  induction h with
  | start => cases hk
  | @step s _ _ st ih =>
    rcases st.act_or_work with ⟨j, act, b, -, next, rfl⟩ | ⟨labour, sink', worker, rfl, -, -⟩
    · by_cases e : k = j
      · subst e
        rw [State.stage_after_self] at hk
        subst hk
        generalize s.stage k = a at next
        cases next
        exact List.mem_append_right _ (List.mem_singleton_self _)
      · rw [State.stage_after_of_ne s e] at hk
        exact List.mem_append_left _ (ih hk)
    · exact List.mem_append_left _ (ih hk)

/-- Nobody else can take it then, and who took it waits until it has stopped. -/
theorem Reachable.taken (h : Reachable sink s) (hm : .call k (.takeWorker true) ∈ s.past) :
    s.joinable = false ∧ (s.stage k = .closeJoin ∨ s.worker = .stopped) := by
  induction h with
  | start => cases hm
  | @step s _ _ st ih =>
    rcases st.act_or_work with ⟨j, act, b, ready, next, rfl⟩ | ⟨labour, sink', worker, rfl, hw, -⟩
    · show act.joinable s.joinable = false ∧ ((s.after j act b).stage k = _ ∨ s.worker = .stopped)
      rcases List.mem_append.mp hm with hm | hm
      · obtain ⟨hj, hwhere⟩ := ih hm
        rw [hj, act.joinable_of_taken]
        refine ⟨rfl, ?_⟩
        rcases hwhere with hk | hstopped
        · by_cases e : k = j
          · subst e
            rw [hk] at next
            cases next
            exact .inr ready
          · rw [State.stage_after_of_ne s e]
            exact .inl hk
        · exact .inr hstopped
      · cases List.mem_singleton.mp hm
        rw [State.stage_after_self]
        generalize s.stage k = a at next
        cases next
        exact ⟨rfl, .inl rfl⟩
    · obtain ⟨hj, hk | hstopped⟩ := ih ((List.mem_append.mp hm).resolve_right (by simp))
      · exact ⟨hj, .inl hk⟩
      · exact absurd hstopped hw

/-- The worker is taken after the sender. -/
theorem Reachable.shut_of_taken {capacity : Nat} (hnew : sink.queue = { capacity })
    (h : Reachable sink s) (hm : .call k (.takeWorker true) ∈ s.past) :
    s.sink.queue.isOpen = false := by
  rcases (h.taken hm).2 with hk | hstopped
  · exact h.guarded.shut k (by rw [hk]; rfl)
  · exact ((h.ledger hnew).stopped hstopped).1

/-! ### a worker that has stopped -/

/-- Once the worker has stopped, nothing changes at the client, whatever callers do. -/
theorem Run.still (h : Run s t) (ho : s.sink.queue.isOpen = false) (hj : s.joinable = false)
    (hw : s.worker = .stopped) : Still s t := by
  induction h with
  | refl => exact .refl s
  | tail _ st ih =>
    rcases st.act_or_work with ⟨j, act, b, ready, -, rfl⟩ | ⟨_, _, _, _, hne, _⟩
    · exact ih.after ho hj ready j b
    · exact absurd (ih.worker.trans hw) hne

/-! ### what callers can rely on -/

/-- What callers can rely on, who share a client and its worker. -/
structure Accounted (capacity : Nat) (sink : Sink) (s : State κ) : Prop where
  /-- what is posted is what was queued, in that order -/
  inOrder : begun s.past <+: (queued s.past).map fun e => e.2.post sink
  ended : posted s.past <+: begun s.past
  /-- and each caller queues once at most -/
  once : ((queued s.past).map Prod.fst).Nodup
  /-- queued is what was tracked and is answered with success -/
  tracked : ∀ k x, (k, x) ∈ queued s.past → .call k (.track x) ∈ s.past
  ok : ∀ k x answer, .call k (.track x) ∈ s.past → .call k (.finish answer) ∈ s.past →
    (answer = .ok () ↔ (k, x) ∈ queued s.past)
  bounded : s.sink.queue.waiting.length ≤ max 1 capacity
  decided : ∀ k x answer, .call k (.track x) ∈ s.past → .call k (.finish answer) ∈ s.past →
    ∃ t, Decided capacity sink s t k x answer
  closes : ∀ k answer, .call k .close ∈ s.past → .call k (.finish answer) ∈ s.past →
    answer = .ok ()
  /-- when the one who took the worker has returned, all is posted, for good -/
  drained : ∀ k answer, .call k (.takeWorker true) ∈ s.past → .call k (.finish answer) ∈ s.past →
    posted s.past = ((queued s.past).map fun e => e.2.post sink) ∧ begun s.past = posted s.past ∧
      ∀ t, Run s t → Still s t
  /-- once it is taken, callers change nothing, and any other who closes can return -/
  further : ∀ j, .call j (.takeWorker true) ∈ s.past → (∀ t, Calls s t → Still s t) ∧
    ∀ k, .call k .close ∈ s.past → .call k (.takeWorker true) ∉ s.past →
      ∃ t, Calls s t ∧ .call k (.finish (.ok ())) ∈ t.past
  /-- and every call can return -/
  returns : ∀ k act, act.opens = true → .call k act ∈ s.past →
    ∃ t answer, Run s t ∧ .call k (.finish answer) ∈ t.past

/-- **However callers and worker take turns, and whatever comes back for the posts, what is posted
is what was queued, in order and once; and a close leaves nothing behind.** -/
theorem Reachable.accounted {config : ClientConfig} {capacity : Nat}
    (hc : Sink.create config capacity = .ok sink) (h : Reachable sink s) :
    Accounted capacity sink s := by
  have hnew := Sink.create_queue hc
  have hledger := h.ledger hnew
  have answered {k x answer} (hk : .call k (.track x) ∈ s.past)
      (hf : .call k (.finish answer) ∈ s.past) : s.stage k = .tracked x answer :=
    Stage.eq_tracked ((h.begun_iff rfl).mp hk) (h.finish_iff.mp hf)
  constructor
  · exact hledger.begun_le
  · rw [hledger.begun]
    exact List.prefix_append _ _
  · exact h.nodup_queued
  · intro k x hq
    exact (h.begun_iff rfl).mpr (Stage.call_of_answered (h.queued_iff.mp hq))
  · intro k x answer hk hf
    rw [h.queued_iff, answered hk hf]
    simp [Stage.answered]
  · have hroom := hledger.room
    rw [Queue.room, hledger.same.capacity, hnew] at hroom
    exact hroom
  · intro k x answer hk hf
    exact h.decided hnew (by rw [answered hk hf]; rfl)
  · intro k answer hk hf
    exact Stage.ok_of_close ((h.begun_iff rfl).mp hk) (h.finish_iff.mp hf)
  · intro k answer hk hf
    have hstopped : s.worker = .stopped := (h.taken hk).2.resolve_left fun hjoin => by
      have hreply := h.finish_iff.mp hf
      rw [hjoin] at hreply
      cases hreply
    have hposted := hledger.all_posted hstopped
    refine ⟨hposted, ?_, fun t hrun => ?_⟩
    · rw [hledger.begun, hstopped]
      exact List.append_nil _
    · exact hrun.still (h.shut_of_taken hnew hk) (h.taken hk).1 hstopped
  · intro j hj
    obtain ⟨hjoinable, -⟩ := h.taken hj
    refine ⟨fun t ht => ht.still (h.shut_of_taken hnew hj) hjoinable, fun k hk hnot => ?_⟩
    obtain ⟨t, ht, hclosed⟩ := h.guarded.exists_closed hjoinable ((h.begun_iff rfl).mp hk)
      fun hjoin => hnot (h.took_of_join hjoin)
    exact ⟨t, ht, (h.run ht.run).finish_iff.mpr (by rw [hclosed]; rfl)⟩
  · intro k act hopens hk
    have hcall := (h.begun_iff hopens).mp hk
    obtain ⟨t, answer, ht, hreply⟩ := h.exists_reply hnew (k := k) fun hout => by
      rw [hout] at hcall
      cases hcall
    exact ⟨t, answer, ht, (h.run ht).finish_iff.mpr hreply⟩

end

/-! ### a queue with room for one -/

/-- An event with one stamp. -/
def someItem (event : String) : Item := ⟨event, [], ⟨"1", "2026-01-01T00:00:00Z"⟩⟩

/-- Settings that hold. -/
def someConfig : ClientConfig :=
  { writeKey := "key", dataplaneUrl := "https://dataplane.example.com", diagnosticId := "d1" }

/-- A new client with room for one. -/
def narrow (endpoint : Url) : Sink := ⟨someConfig, endpoint, { capacity := 0 }⟩

theorem create_narrow : ∃ endpoint, Sink.create someConfig 0 = .ok (narrow endpoint) := by
  have hv : someConfig.validate = .ok () := by decide +kernel
  have he : (Endpoint.ofDataplane someConfig.dataplaneUrl).isOk = true := by decide +kernel
  unfold Sink.create
  rw [hv]
  cases hu : Endpoint.ofDataplane someConfig.dataplaneUrl with
  | error f =>
    rw [hu] at he
    cases he
  | ok endpoint => exact ⟨endpoint, rfl⟩

/-- While the first post is under way, the second event waits, and the third finds no room; the
fourth comes after the client was closed, which is done twice. -/
theorem reachable_sixCallers (endpoint : Url) :
    ∃ s : State Nat, Reachable (narrow endpoint) s ∧
      .call 2 (.finish (.error .queueFull)) ∈ s.past ∧
      .call 4 (.finish (.error .closed)) ∈ s.past ∧ .call 3 (.takeWorker true) ∈ s.past ∧
      .call 3 (.finish (.ok ())) ∈ s.past ∧ .call 5 (.finish (.ok ())) ∈ s.past ∧
      queued s.past = [(0, someItem "a"), (1, someItem "b")] := by
  have h : Reachable (κ := Nat) (narrow endpoint) { sink := narrow endpoint } := .start
  have h := h.call 0 (.track (x := someItem "a")) trivial
  have h := h.call 0 .read rfl
  have h := h.call 0 .look rfl
  have h := h.call 0 (b := .trackDone (someItem "a") (.ok ())) .send rfl
  have h := h.call 0 .readDone trivial
  have h := h.call 0 .tracked trivial
  have h := h.step (.receive rfl rfl)
  have h := h.step (.startPost rfl)
  -- two who track at once, and room for one
  have h := h.call 1 (.track (x := someItem "b")) trivial
  have h := h.call 2 (.track (x := someItem "c")) trivial
  have h := h.call 1 .read rfl
  have h := h.call 2 .read rfl
  have h := h.call 1 .look rfl
  have h := h.call 2 .look rfl
  have h := h.call 1 (b := .trackDone (someItem "b") (.ok ())) .send rfl
  have h := h.call 2 (b := .trackDone (someItem "c") (.error .queueFull)) .send rfl
  have h := h.call 1 .readDone trivial
  have h := h.call 2 .readDone trivial
  have h := h.call 1 .tracked trivial
  have h := h.call 2 .tracked trivial
  -- the sender is taken, and then the worker
  have h := h.call 3 .close trivial
  have h := h.call 3 .write ⟨rfl, rfl⟩
  have h := h.call 3 .takeSender trivial
  have h := h.call 3 .writeDone trivial
  have h := h.call 4 (.track (x := someItem "d")) trivial
  have h := h.call 4 .read rfl
  have h := h.call 4 .lookNone rfl
  have h := h.call 4 .readDone trivial
  have h := h.call 4 .tracked trivial
  have h := h.call 3 .takeWorker rfl
  have h := h.step (.endPost rfl (.failure "timed out"))
  have h := h.step (.receive rfl rfl)
  have h := h.step (.startPost rfl)
  have h := h.step (.endPost rfl (.status 500))
  have h := h.step (.stop rfl rfl rfl)
  have h := h.call 3 .join rfl
  have h := h.call 3 .closed trivial
  have h := h.call 5 .close trivial
  have h := h.call 5 .write ⟨rfl, rfl⟩
  have h := h.call 5 .takeSender trivial
  have h := h.call 5 .writeDone trivial
  have h := h.call 5 .noWorker rfl
  have h := h.call 5 .closed trivial
  refine ⟨_, h, ?_, ?_, ?_, ?_, ?_, ?_⟩
  all_goals simp [State.past_after, State.past_worked, queued, Event.queued]

/-- So one is told that the queue is full, one that the client is closed, and the other two events
are posted, though neither post succeeds. -/
theorem accounted_sixCallers : ∃ (sink : Sink) (s : State Nat),
    Sink.create someConfig 0 = .ok sink ∧ Reachable sink s ∧
    .call 2 (.finish (.error .queueFull)) ∈ s.past ∧ .call 4 (.finish (.error .closed)) ∈ s.past ∧
    .call 5 (.finish (.ok ())) ∈ s.past ∧
    posted s.past = [(someItem "a").post sink, (someItem "b").post sink] ∧
    Accounted 0 sink s := by
  obtain ⟨endpoint, hc⟩ := create_narrow
  obtain ⟨s, h, hfull, hclosed, htook, hdone, hagain, hqueued⟩ := reachable_sixCallers endpoint
  have haccounted := h.accounted hc
  refine ⟨_, s, hc, h, hfull, hclosed, hagain, ?_, haccounted⟩
  rw [(haccounted.drained 3 (.ok ()) htook hdone).1, hqueued]
  rfl

end TelemetryGate.Delivery
