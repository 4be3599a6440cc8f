import TelemetryGate.Proofs.Delivery.Ledger

/-!
# What callers are answered

* `Reachable.isOpen_iff`    the queue is open until a caller takes the sender;
* `Decided`                 the step that settled what a track is answered, and why;
* `Reachable.decided`       every answer was settled by one;
* `Reachable.queued_iff`    what was queued is what is answered with success;
* `Reachable.mem_past_iff`  what the past says of where a caller stands.
-/

namespace TelemetryGate.Delivery

variable {κ : Type}

/-! ### stages and their answers -/

/-- What is tracked, and what its caller is about to answer or has answered. -/
def Stage.answered : Stage → Option (Item × Except ReportError Unit)
  | trackDone x answer | trackLeaving x answer | tracked x answer => some (x, answer)
  | _ => none

/-- whether an act begins a call -/
def Act.opens : Act → Bool
  | track _ | close => true
  | _ => false

/-- The call that a caller has begun. -/
def Stage.call : Stage → Option Act
  | outside => none
  | trackStart x | trackLook x | trackSend x => some (.track x)
  | trackDone x _ | trackLeaving x _ | tracked x _ => some (.track x)
  | closeStart | closeTake | closeTaken | closeWorker | closeJoin | closeLeaving | closed =>
    some .close

theorem Stage.eq_outside {a : Stage} (h : a.call = none) : a = .outside := by
  cases a <;> first | rfl | cases h

theorem Stage.call_cases {a : Stage} {began : Act} (h : a.call = some began) :
    (∃ x, began = .track x) ∨ began = .close := by
  cases a <;> cases h <;> simp

/-- What a caller has returned. -/
def Stage.reply : Stage → Option (Except ReportError Unit)
  | tracked _ answer => some answer
  | closed => some (.ok ())
  | _ => none

section
variable {a b : Stage} {act : Act} {x : Item} {answer : Except ReportError Unit}

theorem Stage.eq_tracked (h : a.call = some (.track x)) (hr : a.reply = some answer) :
    a = .tracked x answer := by
  cases a <;> cases h <;> cases hr
  rfl

theorem Stage.ok_of_close (h : a.call = some .close) (hr : a.reply = some answer) :
    answer = .ok () := by
  cases a <;> cases h <;> cases hr
  rfl

theorem Stage.call_of_answered (h : a.answered = some (x, answer)) :
    a.call = some (.track x) := by
  cases a <;> cases h <;> rfl

/-- An answer is settled by the act that finds no sender, or by the one that sends. -/
theorem Stage.Next.answered (next : Next a act b) :
    b.answered = a.answered ∨
    (∃ x, a = .trackLook x ∧ act = .look false ∧ b = .trackDone x (.error .closed)) ∨
    ∃ x answer, a = .trackSend x ∧ act = .send x answer ∧ b = .trackDone x answer := by
  cases next with
  | lookNone => exact .inr (.inl ⟨_, rfl, rfl, rfl⟩)
  | send => exact .inr (.inr ⟨_, _, rfl, rfl, rfl⟩)
  | _ => exact .inl rfl

theorem Stage.Next.call_iff (next : Next a act b) {began : Act} (hopens : began.opens = true) :
    b.call = some began ↔ a.call = some began ∨ began = act := by
  cases next with
  | track => simp [call, eq_comm]
  | close => simp [call, eq_comm]
  | _ =>
    refine (or_iff_left ?_).symm
    rintro rfl
    cases hopens

theorem Stage.Next.reply_iff (next : Next a act b) :
    b.reply = some answer ↔ a.reply = some answer ∨ .finish answer = act := by
  cases next <;> simp [reply, eq_comm]

theorem mem_queued_call {j k : κ} :
    (k, x) ∈ (Event.call j act).queued ↔ k = j ∧ act = .send x (.ok ()) := by
  cases act with
  | send y answer =>
    cases answer with
    | ok u => simp [Event.queued, eq_comm]
    | error f => simp [Event.queued]
  | _ => simp [Event.queued]

theorem mem_queued {past : List (Event κ)} {k : κ} :
    (k, x) ∈ queued past ↔ .call k (.send x (.ok ())) ∈ past := by
  rw [queued, List.mem_flatMap]
  refine ⟨fun h => ?_, fun h => ⟨_, h, List.mem_singleton_self _⟩⟩
  obtain ⟨e, he, hx⟩ := h
  cases e with
  | call j act =>
    obtain ⟨rfl, rfl⟩ := mem_queued_call.mp hx
    exact he
  | work labour => cases hx

theorem queued_worked (s : State κ) (labour : Labour) (sink : Sink) (worker : Worker) :
    queued (s.worked labour sink worker).past = queued s.past :=
  queued_of_nil _ rfl

end

section
variable [DecidableEq κ] {sink : Sink} {s t : State κ} {k : κ} {x : Item}
  {answer : Except ReportError Unit}

/-! ### what the past says of a caller -/

/-- What one act alone brings about, and no act undoes, is so of a caller if and only if the act
stands in its past. -/
theorem Reachable.mem_past_iff {did : Act} {Q : Stage → Prop} (houtside : ¬ Q .outside)
    (hnext : ∀ {a act b}, Stage.Next a act b → (Q b ↔ Q a ∨ did = act)) (h : Reachable sink s) :
    .call k did ∈ s.past ↔ Q (s.stage k) := by
  induction h with
  | start => exact iff_of_false List.not_mem_nil houtside
  | @step s _ _ st ih =>
    rcases st.act_or_work with ⟨j, act, b, -, next, rfl⟩ | ⟨labour, sink', worker, rfl, -, -⟩
    · rw [State.past_after, List.mem_append, List.mem_singleton, ih]
      by_cases e : k = j
      · subst e
        rw [State.stage_after_self, hnext next, Event.call.injEq]
        exact or_congr_right (and_iff_right rfl)
      · rw [State.stage_after_of_ne s e]
        exact or_iff_left fun he => e (by cases he; rfl)
    · rw [State.past_worked, List.mem_append, List.mem_singleton, ih]
      exact or_iff_left fun e => nomatch e

/-- The call that a caller has begun stands in the past. -/
theorem Reachable.begun_iff (h : Reachable sink s) {began : Act} (hopens : began.opens = true) :
    .call k began ∈ s.past ↔ (s.stage k).call = some began :=
  h.mem_past_iff (Q := fun a => a.call = some began) (fun e => nomatch e)
    fun next => next.call_iff hopens

/-- So does what it has returned. -/
theorem Reachable.finish_iff (h : Reachable sink s) :
    .call k (.finish answer) ∈ s.past ↔ (s.stage k).reply = some answer :=
  h.mem_past_iff (Q := fun a => a.reply = some answer) (fun e => nomatch e)
    fun next => next.reply_iff

/-! ### the sender -/

/-- The queue is open until a caller takes the sender. -/
theorem Reachable.isOpen_iff (hnew : sink.queue.isOpen = true) (h : Reachable sink s) :
    s.sink.queue.isOpen = false ↔ ∃ j, .call j .takeSender ∈ s.past := by
  induction h with
  | start =>
    refine iff_of_false (fun e => ?_) fun ⟨_, hm⟩ => nomatch hm
    have hshut : sink.queue.isOpen = false := e
    rw [hnew] at hshut
    cases hshut
  | @step s _ _ st ih =>
    rcases st.act_or_work with ⟨j, act, b, -, -, rfl⟩ | ⟨labour, sink', worker, rfl, -, ho⟩
    · show (act.sink s.sink).queue.isOpen = false ↔ _
      by_cases e : act = .takeSender
      · subst e
        exact iff_of_true rfl ⟨j, List.mem_append_right _ (List.mem_singleton_self _)⟩
      · rw [Act.isOpen_sink e, ih]
        refine exists_congr fun i => ⟨List.mem_append_left _, fun hm => ?_⟩
        rcases List.mem_append.mp hm with hm | hm
        · exact hm
        · cases List.mem_singleton.mp hm
          exact absurd rfl e
    · show sink'.queue.isOpen = false ↔ ∃ j, .call j .takeSender ∈ s.past ++ [.work labour]
      rw [ho, ih]
      simp

/-! ### the step that settles an answer -/

/-- The step, from `t` and before `s`, that settled what a track is answered: it comes after
a caller took the sender, or it finds the queue full, or there is room. -/
structure Decided (capacity : Nat) (sink : Sink) (s t : State κ) (k : κ) (x : Item)
    (answer : Except ReportError Unit) : Prop where
  reachable : Reachable sink t
  step : ∃ act b, (act = .look false ∨ act = .send x answer) ∧ Step t (t.after k act b) ∧
    Run (t.after k act b) s
  closed : answer = .error .closed ↔ ∃ j, .call j .takeSender ∈ t.past
  queueFull : (∀ j, .call j .takeSender ∉ t.past) →
    (answer = .error .queueFull ↔ t.sink.queue.waiting.length = max 1 capacity)
  ok : answer = .ok () ↔ (∀ j, .call j .takeSender ∉ t.past) ∧
    t.sink.queue.waiting.length < max 1 capacity

variable {capacity : Nat}

theorem Decided.after (h : Decided capacity sink s t k x answer) {u : State κ} (st : Step s u) :
    Decided capacity sink u t k x answer := by
  obtain ⟨act, b, hact, hstep, hrun⟩ := h.step
  exact ⟨h.reachable, ⟨act, b, hact, hstep, hrun.tail st⟩, h.closed, h.queueFull, h.ok⟩

/-- Whoever finds no sender is told that the client is closed. -/
theorem Decided.noSender (hnew : sink.queue = { capacity }) (h : Reachable sink s)
    (hk : s.stage k = .trackLook x) (ho : s.sink.queue.isOpen = false) :
    Decided capacity sink (s.after k (.look false) (.trackDone x (.error .closed))) s k x
      (.error .closed) := by
  have htaken := (h.isOpen_iff (by rw [hnew])).mp ho
  have hnot : ¬ ∀ j, .call j .takeSender ∉ s.past := fun hn => by
    obtain ⟨j, hj⟩ := htaken
    exact hn j hj
  have next : Stage.Next (s.stage k) (.look false) (.trackDone x (.error .closed)) := by
    rw [hk]
    exact .lookNone
  exact ⟨h, ⟨_, _, .inl rfl, .call ho next, .refl⟩, iff_of_true rfl htaken,
    fun hn => absurd hn hnot, iff_of_false (fun e => nomatch e) fun hn => hnot hn.1⟩

/-- Whoever sends is told what becomes of the offer. -/
theorem Decided.sent (hnew : sink.queue = { capacity }) (h : Reachable sink s)
    (hk : s.stage k = .trackSend x) (ha : x.answer s.sink = answer) :
    Decided capacity sink (s.after k (.send x answer) (.trackDone x answer)) s k x answer := by
  have hopen := h.guarded.sends k x hk
  have hnone : ∀ j, .call j .takeSender ∉ s.past := fun j hj => by
    have hshut := (h.isOpen_iff (by rw [hnew])).mpr ⟨j, hj⟩
    rw [hopen] at hshut
    cases hshut
  have hnot : ¬ ∃ j, .call j .takeSender ∈ s.past := fun ⟨j, hj⟩ => hnone j hj
  have hledger := h.ledger hnew
  have hroom : s.sink.queue.room = max 1 capacity := by
    rw [Queue.room, hledger.same.capacity, hnew]
  have hle := hledger.room
  rw [hroom] at hle
  have next : Stage.Next (s.stage k) (.send x answer) (.trackDone x answer) := by
    rw [hk]
    exact .send
  have hstep : ∃ act b, (act = .look false ∨ act = .send x answer) ∧ Step s (s.after k act b) ∧
      Run (s.after k act b) (s.after k (.send x answer) (.trackDone x answer)) :=
    ⟨_, _, .inr rfl, .call ha next, .refl⟩
  rcases x.offer_cases s.sink with ⟨ho, _⟩ | ⟨_, hfull, hans, _⟩ | ⟨_, hlt, hans, _⟩
  · rw [hopen] at ho
    cases ho
  · rw [hroom] at hfull
    rw [hans] at ha
    subst ha
    exact ⟨h, hstep, iff_of_false (fun e => nomatch e) hnot,
      fun _ => iff_of_true rfl (Nat.le_antisymm hle hfull),
      iff_of_false (fun e => nomatch e) fun hn => Nat.not_lt.mpr hfull hn.2⟩
  · rw [hroom] at hlt
    rw [hans] at ha
    subst ha
    exact ⟨h, hstep, iff_of_false (fun e => nomatch e) hnot,
      fun _ => iff_of_false (fun e => nomatch e) (Nat.ne_of_lt hlt),
      iff_of_true rfl ⟨hnone, hlt⟩⟩

/-- Every answer was settled by one step. -/
theorem Reachable.decided (hnew : sink.queue = { capacity }) (h : Reachable sink s)
    (hk : (s.stage k).answered = some (x, answer)) : ∃ t, Decided capacity sink s t k x answer := by
  induction h with
  | start => cases hk
  | @step s u h st ih =>
    -- the step leaves the answer as it is, or settles it
    have keep (he : (s.stage k).answered = some (x, answer)) :
        ∃ t, Decided capacity sink u t k x answer := by
      obtain ⟨t, ht⟩ := ih he
      exact ⟨t, ht.after st⟩
    rcases st.act_or_work with ⟨j, act, b, ready, next, rfl⟩ | ⟨labour, sink', worker, rfl, -, -⟩
    · by_cases e : k = j
      · subst e
        rw [State.stage_after_self] at hk
        rcases next.answered with hb | ⟨y, ha, rfl, rfl⟩ | ⟨y, answer', ha, rfl, rfl⟩
        · exact keep (hb ▸ hk)
        · cases hk
          exact ⟨s, .noSender hnew h ha ready⟩
        · cases hk
          exact ⟨s, .sent hnew h ha ready⟩
      · rw [State.stage_after_of_ne s e] at hk
        exact keep hk
    · exact keep hk

/-! ### what was queued -/

/-- What was queued is what is answered with success. -/
theorem Reachable.queued_iff (h : Reachable sink s) :
    (k, x) ∈ queued s.past ↔ (s.stage k).answered = some (x, .ok ()) := by
  rw [mem_queued]
  refine h.mem_past_iff (Q := fun a => a.answered = some (x, .ok ())) (fun e => nomatch e)
    fun next => ?_
  cases next <;> simp [Stage.answered, eq_comm]

/-- Nobody queues twice. -/
theorem Reachable.nodup_queued (h : Reachable sink s) : ((queued s.past).map Prod.fst).Nodup := by
  induction h with
  | start => exact List.nodup_nil
  | @step s _ h st ih =>
    rcases st.act_or_work with ⟨j, act, b, ready, next, rfl⟩ | ⟨labour, sink', worker, rfl, -, -⟩
    · show ((queued (s.past ++ [.call j act])).map Prod.fst).Nodup
      rw [queued_snoc, List.map_append, List.nodup_append]
      refine ⟨ih, ?_, ?_⟩
      · cases act with
        | send y answer => cases answer <;> simp [Event.queued]
        | _ => exact List.nodup_nil
      · intro k hk i hi e
        obtain ⟨⟨k, x⟩, hx, rfl⟩ := List.mem_map.mp hk
        obtain ⟨⟨i, y⟩, hy, rfl⟩ := List.mem_map.mp hi
        obtain ⟨rfl, rfl⟩ := mem_queued_call.mp hy
        cases e
        -- who sends was not answered yet
        have hans := h.queued_iff.mp hx
        generalize s.stage k = a at next hans
        cases next
        cases hans
    · rw [queued_worked]
      exact ih

end

end TelemetryGate.Delivery
