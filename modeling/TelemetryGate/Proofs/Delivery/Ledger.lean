import TelemetryGate.Proofs.Delivery.Locks

/-!
# What becomes of what is queued

* `Same`                the settings of a client, which nothing changes;
* `Worker.inHand`, `Worker.begun`   what the worker has in hand, and the post that it began;
* `Ledger`              what was posted and what is pending are what was queued;
* `Reachable.ledger`    that holds at every time.
-/

namespace TelemetryGate

/-! ### one operation of the client -/

namespace Sink

variable {s : Sink} {payload : String} {rest : List String}

theorem pending_take (s : Sink) : s.take.pending = s.pending :=
  congrArg (List.map s.post) s.queue.pending_take

theorem queue_take (hi : s.queue.inHand = none) (hq : s.queue.waiting = payload :: rest) :
    s.take.queue = { s.queue with waiting := rest, inHand := some payload } := by
  show s.queue.take = _
  unfold Queue.take
  rw [hi, hq]

theorem pending_of_inHand (h : s.queue.inHand = some payload) :
    s.pending = s.post payload :: s.settle.pending := by
  show s.queue.pending.map s.post = _
  unfold Queue.pending
  rw [h]
  rfl

theorem create_queue {config : ClientConfig} {capacity : Nat}
    (h : Sink.create config capacity = .ok s) : s.queue = { capacity } := by
  unfold create at h
  cases hv : config.validate with
  | error f =>
    rw [hv] at h
    cases h
  | ok u =>
    rw [hv] at h
    cases he : Endpoint.ofDataplane config.dataplaneUrl with
    | error f =>
      rw [he] at h
      cases h
    | ok endpoint =>
      rw [he] at h
      cases h
      rfl

end Sink

namespace Delivery

variable {κ : Type}

/-- The settings of a client are those that it was made with. -/
structure Same (sink s : Sink) : Prop where
  config : s.config = sink.config
  endpoint : s.endpoint = sink.endpoint
  capacity : s.queue.capacity = sink.queue.capacity

section
variable {sink s : Sink} {x : Item}

theorem Same.post_eq (h : Same sink s) (payload : String) : s.post payload = sink.post payload := by
  unfold Sink.post
  rw [h.config, h.endpoint]

theorem Same.item_post (h : Same sink s) (x : Item) : x.post s = x.post sink := by
  unfold Item.post Item.payload
  rw [h.post_eq, h.config]

theorem Same.close (h : Same sink s) : Same sink s.close := ⟨h.config, h.endpoint, h.capacity⟩

theorem Same.settle (h : Same sink s) : Same sink s.settle := ⟨h.config, h.endpoint, h.capacity⟩

theorem Same.pushed (h : Same sink s) (x : Item) : Same sink (x.pushed s) :=
  ⟨h.config, h.endpoint, h.capacity⟩

theorem Same.take (h : Same sink s) : Same sink s.take := by
  refine ⟨h.config, h.endpoint, ?_⟩
  rw [← h.capacity]
  show s.queue.take.capacity = s.queue.capacity
  unfold Queue.take
  split <;> rfl

theorem pending_pushed (x : Item) (s : Sink) : (x.pushed s).pending = s.pending ++ [x.post s] := by
  show (x.pushed s).queue.pending.map s.post = s.queue.pending.map s.post ++ [s.post (x.payload s)]
  unfold Item.pushed Queue.pending
  rw [← List.append_assoc, List.map_append]
  rfl

end

/-! ### the worker -/

/-- What the worker has in hand. -/
def Worker.inHand : Worker → Option String
  | holding payload | posting payload => some payload
  | _ => none

/-- The post that the worker began and that has not ended. -/
def Worker.begun (sink : Sink) : Worker → List Post
  | posting payload => [sink.post payload]
  | _ => []

/-! ### the ledger -/

/-- What was posted and what is pending are what was queued, in order; no more waits than has room;
and the worker stops when nothing waits and nothing will. -/
structure Ledger (sink : Sink) (s : State κ) : Prop where
  same : Same sink s.sink
  inHand : s.sink.queue.inHand = s.worker.inHand
  posted : posted s.past ++ s.sink.pending = (queued s.past).map fun e => e.2.post sink
  begun : begun s.past = Delivery.posted s.past ++ s.worker.begun sink
  room : s.sink.queue.waiting.length ≤ s.sink.queue.room
  stopped : s.worker = .stopped → s.sink.queue.isOpen = false ∧ s.sink.queue.waiting = []

theorem Ledger.start {sink : Sink} {capacity : Nat} (h : sink.queue = { capacity }) :
    Ledger sink ({ sink } : State κ) where
  same := ⟨rfl, rfl, rfl⟩
  inHand := by
    show sink.queue.inHand = none
    rw [h]
  posted := by
    show sink.queue.pending.map sink.post = []
    rw [h]
    rfl
  begun := rfl
  room := by
    show sink.queue.waiting.length ≤ _
    rw [h]
    exact Nat.zero_le _
  stopped e := nomatch e

section
variable {sink : Sink} {s t : State κ} {act : Act}

/-- A labour that leaves all pending and ends no post keeps the ledger's equation. -/
theorem Ledger.posted_kept (h : Ledger sink s) {labour : Labour} {sink' : Sink}
    (hl : (Event.work labour : Event κ).posted = []) (hp : sink'.pending = s.sink.pending) :
    Delivery.posted (s.past ++ [.work labour]) ++ sink'.pending =
      (queued (s.past ++ [.work labour])).map fun e => e.2.post sink := by
  rw [posted_of_nil _ hl, queued_of_nil _ rfl, hp]
  exact h.posted

/-- What was posted stands at the front of what was queued. -/
theorem Ledger.begun_le (h : Ledger sink s) :
    Delivery.begun s.past <+: (queued s.past).map fun e => e.2.post sink := by
  rw [← h.posted, h.begun]
  cases hw : s.worker with
  | posting payload =>
    have hi : s.sink.queue.inHand = some payload := by
      rw [h.inHand, hw]
      rfl
    rw [Sink.pending_of_inHand hi, h.same.post_eq]
    exact (List.prefix_append_right_inj _).mpr ⟨s.sink.settle.pending, rfl⟩
  | idle => exact (List.prefix_append_right_inj _).mpr List.nil_prefix
  | holding payload => exact (List.prefix_append_right_inj _).mpr List.nil_prefix
  | stopped => exact (List.prefix_append_right_inj _).mpr List.nil_prefix

/-- When the worker has stopped, all that was queued was posted. -/
theorem Ledger.all_posted (h : Ledger sink s) (hw : s.worker = .stopped) :
    Delivery.posted s.past = (queued s.past).map fun e => e.2.post sink := by
  have hi : s.sink.queue.inHand = none := by
    rw [h.inHand, hw]
    rfl
  have hnone : s.sink.pending = [] := by
    show s.sink.queue.pending.map s.sink.post = []
    unfold Queue.pending
    rw [hi, (h.stopped hw).2]
    rfl
  rw [← h.posted, hnone, List.append_nil]

variable [DecidableEq κ]

theorem Ledger.call (h : Ledger sink s) (ready : act.Ready s) (k : κ) (b : Stage) :
    Ledger sink (s.after k act b) := by
  have hbegun : Delivery.begun (s.past ++ [.call k act]) =
      Delivery.posted (s.past ++ [.call k act]) ++ s.worker.begun sink := by
    rw [begun_of_nil _ rfl, posted_of_nil _ rfl]
    exact h.begun
  rcases Act.sink_cases ready k with ⟨hs, hq⟩ | ⟨rfl, hs⟩ | ⟨x, rfl, ho, hlt, hs⟩
  · have hsink : (s.after k act b).sink = s.sink := hs
    constructor
    · rw [hsink]
      exact h.same
    · rw [hsink]
      exact h.inHand
    · show Delivery.posted (s.past ++ [.call k act]) ++ (s.after k act b).sink.pending =
        (queued (s.past ++ [.call k act])).map _
      rw [posted_of_nil _ rfl, queued_of_nil _ hq, hsink]
      exact h.posted
    · exact hbegun
    · rw [hsink]
      exact h.room
    · rw [hsink]
      exact h.stopped
  · constructor
    · exact h.same.close
    · exact h.inHand
    · show Delivery.posted (s.past ++ [.call k .takeSender]) ++ s.sink.pending =
        (queued (s.past ++ [.call k .takeSender])).map _
      rw [posted_of_nil _ rfl, queued_of_nil _ rfl]
      exact h.posted
    · exact hbegun
    · exact h.room
    · exact fun hw => ⟨rfl, (h.stopped hw).2⟩
  · -- the item goes to the end of what is pending
    have hsink : (s.after k (.send x (.ok ())) b).sink = x.pushed s.sink := hs
    have hqueued : queued (s.past ++ [.call k (.send x (.ok ()))]) = queued s.past ++ [(k, x)] :=
      queued_snoc ..
    constructor
    · rw [hsink]
      exact h.same.pushed x
    · rw [hsink]
      exact h.inHand
    · show Delivery.posted (s.past ++ [.call k (.send x (.ok ()))]) ++ _ =
        (queued (s.past ++ [.call k (.send x (.ok ()))])).map _
      rw [posted_of_nil _ rfl, hqueued, hsink, pending_pushed, List.map_append,
        ← List.append_assoc, h.posted, h.same.item_post]
      rfl
    · exact hbegun
    · rw [hsink]
      show (s.sink.queue.waiting ++ [x.payload s.sink]).length ≤ s.sink.queue.room
      rw [List.length_append]
      exact hlt
    · intro hw
      have hshut := (h.stopped hw).1
      rw [ho] at hshut
      cases hshut

theorem Ledger.step (h : Ledger sink s) (st : Step s t) : Ledger sink t := by
  have hbegun := h.begun
  cases st with
  | @call k act b ready next => exact h.call ready k b
  | @receive payload rest hw hq =>
    have hi : s.sink.queue.inHand = none := by
      rw [h.inHand, hw]
      rfl
    have htake := Sink.queue_take hi hq
    have hroom := h.room
    rw [hq] at hroom
    rw [hw] at hbegun
    constructor
    · exact h.same.take
    · show s.sink.take.queue.inHand = some payload
      rw [htake]
    · exact h.posted_kept rfl (Sink.pending_take s.sink)
    · show Delivery.begun (s.past ++ [_]) = Delivery.posted (s.past ++ [_]) ++ []
      rw [begun_of_nil _ rfl, posted_of_nil _ rfl]
      exact hbegun
    · show s.sink.take.queue.waiting.length ≤ s.sink.take.queue.room
      rw [htake]
      exact Nat.le_of_succ_le hroom
    · exact fun e => nomatch e
  | @startPost payload hw =>
    rw [hw] at hbegun
    constructor
    · exact h.same
    · show s.sink.queue.inHand = some payload
      rw [h.inHand, hw]
      rfl
    · exact h.posted_kept rfl rfl
    · show Delivery.begun (s.past ++ [_]) = Delivery.posted (s.past ++ [_]) ++ [sink.post payload]
      rw [begun_snoc, posted_of_nil _ rfl, hbegun, h.same.post_eq]
      exact congrArg (· ++ [sink.post payload]) (List.append_nil _)
    · exact h.room
    · exact fun e => nomatch e
  | @endPost payload hw reply =>
    have hi : s.sink.queue.inHand = some payload := by
      rw [h.inHand, hw]
      rfl
    have hposted := h.posted
    rw [Sink.pending_of_inHand hi] at hposted
    rw [hw] at hbegun
    constructor
    · exact h.same.settle
    · rfl
    · show Delivery.posted (s.past ++ [_]) ++ s.sink.settle.pending = (queued (s.past ++ [_])).map _
      rw [posted_snoc, queued_of_nil _ rfl, List.append_assoc]
      exact hposted
    · show Delivery.begun (s.past ++ [_]) = Delivery.posted (s.past ++ [_]) ++ []
      rw [begun_of_nil _ rfl, posted_snoc, List.append_nil, hbegun, h.same.post_eq]
      rfl
    · exact h.room
    · exact fun e => nomatch e
  | stop hw hq ho =>
    rw [hw] at hbegun
    constructor
    · exact h.same
    · show s.sink.queue.inHand = none
      rw [h.inHand, hw]
      rfl
    · exact h.posted_kept rfl rfl
    · show Delivery.begun (s.past ++ [_]) = Delivery.posted (s.past ++ [_]) ++ []
      rw [begun_of_nil _ rfl, posted_of_nil _ rfl]
      exact hbegun
    · exact h.room
    · exact fun _ => ⟨ho, hq⟩

theorem Ledger.run (h : Ledger sink s) (hrun : Run s t) : Ledger sink t := by
  induction hrun with
  | refl => exact h
  | tail _ st ih => exact ih.step st

theorem Reachable.ledger {capacity : Nat} (hnew : sink.queue = { capacity })
    (h : Reachable sink s) : Ledger sink s := by
  induction h with
  | start => exact .start hnew
  | step _ st ih => exact ih.step st

end

end Delivery

end TelemetryGate
