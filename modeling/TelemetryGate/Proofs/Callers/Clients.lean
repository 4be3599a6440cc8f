import TelemetryGate.Proofs.Callers.Locks

/-!
# Whose clients are

A client that was made is behind the lock of the handle, in the hands of the one caller that has the
lock for transitions, or being closed; never in two places.

* `creations`, `closings`   the clients that were made, and those whose closing began, in order;
* `State.switcher`          the stage of the caller that has the lock for transitions;
* `State.unclosed`          the client that was made and not closed yet;
* `Ledger`                  the clients closed and the one that is not are those that were made;
* `SoleOwner`               what clients see of the manager, however many call it.
-/

namespace TelemetryGate.Callers

variable {κ : Type}

/-! ### what was done to clients -/

def Act.creates : Act → List Nat
  | endCreate (.ok client) => [client.number]
  | _ => []

def Act.closes : Act → List Nat
  | startClose n => [n]
  | _ => []

/-- The clients that were made, in order. -/
def creations (past : List (κ × Act)) : List Nat := past.flatMap fun e => e.2.creates

/-- The clients whose closing began, in order. -/
def closings (past : List (κ × Act)) : List Nat := past.flatMap fun e => e.2.closes

theorem creations_snoc (past : List (κ × Act)) (k : κ) (act : Act) :
    creations (past ++ [(k, act)]) = creations past ++ act.creates := by
  simp only [creations, List.flatMap_append, List.flatMap_singleton]

theorem closings_snoc (past : List (κ × Act)) (k : κ) (act : Act) :
    closings (past ++ [(k, act)]) = closings past ++ act.closes := by
  simp only [closings, List.flatMap_append, List.flatMap_singleton]

/-- A track of the client has begun and not ended. -/
def Tracking (n : Nat) (past : List (κ × Act)) : Prop :=
  ∃ k event props, (k, .startTrack n event props) ∈ past ∧
    ∀ failure, (k, .endTrack n event props failure) ∉ past

/-- A call has begun and not returned. -/
def UnderWay (k : κ) (past : List (κ × Act)) : Prop :=
  (k, .begin) ∈ past ∧ ∀ answer, (k, .finish answer) ∉ past

/-! ### the caller that switches -/

/-- The stage of the caller that has the lock for transitions. -/
def State.switcher (s : State κ) : Stage :=
  match s.shared.transition with
  | some k => s.stage k
  | none => .unborn

theorem State.switcher_of_free {s : State κ} (h : s.shared.transition = none) :
    s.switcher = .unborn := by
  rw [switcher, h]

theorem Guarded.switcher_of_locks {s : State κ} (h : Guarded s) {k : κ}
    (hk : (s.stage k).locks = true) : s.switcher = s.stage k := by
  rw [State.switcher, (h.transition k).mpr hk]

theorem Guarded.switcher_of_no_locks {s : State κ} (h : Guarded s)
    (hk : ∀ k, (s.stage k).locks ≠ true) : s.switcher = .unborn := by
  refine State.switcher_of_free (Option.eq_none_iff_forall_ne_some.mpr fun k e => ?_)
  exact hk k ((h.transition k).mp e)

section
variable [DecidableEq κ] {calls : κ → Call} {s : State κ} {j : κ} {act : Act} {b : Stage}

/-- What only the switching stages have, `f`, changes with a step of the caller that switches, or
the step has nothing to do with it. -/
theorem Guarded.switcher_step {α : Type} (f : Stage → α)
    (hf : ∀ a : Stage, a.locks = false → f a = f .unborn) (h : Guarded s)
    (ready : act.Ready s.shared) (next : Stage.Next (calls j) (s.stage j) act b) :
    (f s.switcher = f (s.stage j) ∧ f (s.after j act b).switcher = f b) ∨
      (f (s.after j act b).switcher = f s.switcher ∧ f (s.stage j) = f .unborn ∧
        f b = f .unborn) := by
  have ht : Guarded (s.after j act b) := h.step (.act ready next)
  have hb : (s.after j act b).stage j = b := s.stage_after_self j act b
  by_cases ha : (s.stage j).locks = true
  · left
    refine ⟨by rw [h.switcher_of_locks ha], ?_⟩
    by_cases hl : b.locks = true
    · rw [ht.switcher_of_locks (by rwa [hb]), hb]
    · -- the lock is given back
      have hfree : (s.after j act b).switcher = .unborn := by
        refine ht.switcher_of_no_locks fun k hk => ?_
        by_cases e : k = j
        · rw [e, hb] at hk
          exact hl hk
        · rw [s.stage_after_of_ne e] at hk
          exact e (h.eq_of_locks hk ha)
      rw [hfree, hf b (Bool.eq_false_iff.mpr hl)]
  · have ha' := hf _ (Bool.eq_false_iff.mpr ha)
    by_cases hl : b.locks = true
    · -- the lock is got
      left
      have hfree : s.switcher = .unborn := by
        refine h.switcher_of_no_locks fun k hk => ?_
        by_cases e : k = j
        · rw [e] at hk
          exact ha hk
        · rw [← s.stage_after_of_ne e act b] at hk
          exact e (ht.eq_of_locks hk (by rwa [hb]))
      refine ⟨by rw [hfree, ha'], ?_⟩
      rw [ht.switcher_of_locks (by rwa [hb]), hb]
    · right
      refine ⟨?_, ha', hf b (Bool.eq_false_iff.mpr hl)⟩
      by_cases hs : ∃ k, (s.stage k).locks = true
      · obtain ⟨k, hk⟩ := hs
        have e : k ≠ j := fun e => ha (e ▸ hk)
        have hk' := s.stage_after_of_ne e act b
        rw [h.switcher_of_locks hk, ht.switcher_of_locks (by rwa [hk']), hk']
      · have hs' := not_exists.mp hs
        rw [h.switcher_of_no_locks hs', ht.switcher_of_no_locks fun k hk => ?_]
        by_cases e : k = j
        · rw [e, hb] at hk
          exact hl hk
        · rw [s.stage_after_of_ne e] at hk
          exact hs' k hk

end

/-! ### the ledger -/

/-- The client that a caller has in its hands. -/
def Stage.carries : Stage → Option LiveClient
  | onCreated client | onSwap client | offHeld client => some client
  | offSwapped found => found
  | _ => none

/-- Only the caller that switches has a client in its hands, and then there is none elsewhere. -/
theorem Stage.carries_of_not_locks {a : Stage} (h : a.locks = false) : a.carries = none := by
  cases a <;> first | rfl | cases h

/-- The client that was made and whose closing has not begun. -/
def State.unclosed (s : State κ) : Option LiveClient := s.shared.sink.or s.switcher.carries

/-- the number of a client, if there is one -/
def numberOf (client : Option LiveClient) : List Nat := client.toList.map LiveClient.number

@[simp] theorem Errand.carries_start (e : Errand) : e.start.carries = none := by cases e <;> rfl

@[simp] theorem Question.carries_seen (q : Question) (found : Option LiveClient) :
    (q.seen found).carries = none := by
  cases q <;> cases found <;> rfl

section
variable [DecidableEq κ] {c : Call} {a b : Stage} {act : Act} {s : Shared κ} {j : κ}

/-- A step of the caller that switches moves the client, makes it or begins to close it. -/
theorem Stage.Next.ledger (next : Stage.Next c a act b) (ready : act.Ready s)
    (h : ∀ found, a.knows = some found → s.sink = found) :
    act.closes ++ numberOf ((act.effect j s).sink.or b.carries) =
      numberOf (s.sink.or a.carries) ++ act.creates := by
  cases next with
  | begin => rw [Errand.carries_start]; exact (List.append_nil _).symm
  | onCreated _ =>
    show numberOf (s.sink.or _) = numberOf (s.sink.or none) ++ _
    rw [h none rfl]
    rfl
  | onPut =>
    show numberOf _ = numberOf (s.sink.or _) ++ []
    rw [h none rfl]
    rfl
  | offTake =>
    show numberOf (none.or _) = numberOf (s.sink.or none) ++ []
    rw [show s.sink = _ from ready, Option.or_none, Option.none_or, List.append_nil]
    rfl
  | offClose =>
    show _ ++ numberOf (s.sink.or none) = numberOf (s.sink.or _) ++ []
    rw [h none rfl]
    rfl
  | look => rw [Question.carries_seen]; exact (List.append_nil _).symm
  | _ => exact (List.append_nil _).symm

/-- A step of a caller that has no client before it and after it leaves the client where it is. -/
theorem Stage.Next.no_ledger (next : Stage.Next c a act b) (ready : act.Ready s)
    (ha : a.carries = none) (hb : b.carries = none) :
    (act.effect j s).sink = s.sink ∧ act.closes = [] ∧ act.creates = [] := by
  cases next with
  | onCreated _ => cases hb
  | onPut => cases ha
  | offTake => cases hb; exact ⟨(show s.sink = none from ready).symm, rfl, rfl⟩
  | offClose => cases ha
  | _ => exact ⟨rfl, rfl, rfl⟩

theorem Stage.Next.creates_eq (next : Stage.Next c a act b) (ready : act.Ready s) :
    List.range' 1 s.created ++ act.creates = List.range' 1 (act.effect j s).created := by
  cases next with
  | @onCreated config n _ =>
    have e : n = s.created + 1 := ready
    subst e
    show _ = List.range' 1 (s.created + 1)
    rw [List.range'_1_concat, Nat.add_comm]
    rfl
  | _ => exact List.append_nil _

end

/-- The clients closed and the one that is not are those that were made, in the order of their
numbers. -/
structure Ledger (s : State κ) : Prop where
  closed : closings s.past ++ numberOf s.unclosed = creations s.past
  made : creations s.past = List.range' 1 s.shared.created

section
variable [DecidableEq κ] {calls : κ → Call} {s t : State κ}

theorem Ledger.step (h : Ledger s) (hg : Guarded s) (st : Step calls s t) : Ledger t := by
  cases st with
  | @act j act b ready next =>
    constructor
    · show closings (s.past ++ [(j, act)]) ++ _ = creations (s.past ++ [(j, act)])
      rw [closings_snoc, creations_snoc, ← h.closed, List.append_assoc, List.append_assoc]
      congr 1
      rcases hg.switcher_step Stage.carries (fun a => Stage.carries_of_not_locks) ready next
        with ⟨ha, hb⟩ | ⟨hk, ha, hb⟩
      · rw [State.unclosed, State.unclosed, ha, hb]
        exact next.ledger ready (hg.knows j)
      · obtain ⟨hs, hc, hm⟩ := next.no_ledger (j := j) ready ha hb
        rw [State.unclosed, State.unclosed, hk, hc, hm, List.append_nil]
        show numberOf ((act.effect j s.shared).sink.or _) = _
        rw [hs]
    · show creations (s.past ++ [(j, act)]) = _
      rw [creations_snoc, h.made]
      exact next.creates_eq ready

theorem Reachable.ledger (h : Reachable calls s) : Ledger s := by
  induction h with
  | start => exact ⟨rfl, rfl⟩
  | step h st ih => exact ih.step h.guarded st

end

/-! ### what clients see -/

/-- What clients see of the manager, however many call it. Clients are told apart by their numbers,
which are all different. -/
structure SoleOwner (calls : κ → Call) (s : State κ) : Prop where
  distinct : (creations s.past).Nodup
  /-- there are not two clients that were made and not closed -/
  one : ∀ m ∈ creations s.past, ∀ n ∈ creations s.past,
    m ∉ closings s.past → n ∉ closings s.past → m = n
  /-- no client is closed twice -/
  once : (closings s.past).Nodup
  /-- no client tracks when its closing begins -/
  idle : ∀ before k n after, s.past = before ++ (k, .startClose n) :: after → ¬ Tracking n before
  /-- no client is asked to track once its closing began -/
  unclosed : ∀ before k n event props after,
    s.past = before ++ (k, .startTrack n event props) :: after → n ∉ closings before
  /-- while nobody switches, all clients are closed but the one behind the lock -/
  count : (∀ k, (calls k).request.errand.switches = true → ¬ UnderWay k s.past) →
    (creations s.past).length = (closings s.past).length + if s.shared.sink.isSome then 1 else 0

theorem Ledger.nodup {s : State κ} (h : Ledger s) : (creations s.past).Nodup := by
  rw [h.made]
  exact List.nodup_range'

theorem numberOf_eq_of_mem {client : Option LiveClient} {m n : Nat} (hm : m ∈ numberOf client)
    (hn : n ∈ numberOf client) : m = n := by
  cases client with
  | none => cases hm
  | some c => rw [List.mem_singleton.mp hm, List.mem_singleton.mp hn]

section
variable [DecidableEq κ] {calls : κ → Call} {s : State κ}

theorem Reachable.trackRun_of_tracking (h : Reachable calls s) {n : Nat}
    (ht : Tracking n s.past) :
    ∃ k client event props, s.stage k = .trackRun client event props ∧ client.number = n := by
  obtain ⟨k, event, props, hs, he⟩ := ht
  rcases (h.path k).track_of_start (mem_deeds.mpr hs) with ⟨client, hk, hn⟩ | ⟨failure, hf⟩
  · exact ⟨k, client, event, props, hk, hn⟩
  · exact absurd (mem_deeds.mp hf) (he failure)

/-- Whoever has the lock for transitions is under way with a call that switches. -/
theorem Reachable.switches_of_locks (h : Reachable calls s) {k : κ}
    (hk : (s.stage k).locks = true) :
    (calls k).request.errand.switches = true ∧ UnderWay k s.past := by
  have hs := h.serves k
  constructor
  · cases e : s.stage k <;> rw [e] at hk hs <;> first
      | cases hk; done
      | exact congrArg Errand.switches hs
      | exact congrArg Errand.switches hs.1
      | exact hs
  · refine ⟨h.begun fun e => ?_, fun answer hf => ?_⟩
    · rw [e] at hk
      cases hk
    · rw [h.returned hf] at hk
      cases hk

/-- **However many callers there are and however their steps interleave, the manager is the sole
owner of at most one client.** -/
theorem Reachable.soleOwner (h : Reachable calls s) : SoleOwner calls s where
  distinct := h.ledger.nodup
  one m hm n hn hmc hnc := by
    rw [← h.ledger.closed, List.mem_append] at hm hn
    exact numberOf_eq_of_mem (hm.resolve_left hmc) (hn.resolve_left hnc)
  once := by
    have hd := h.ledger.nodup
    rw [← h.ledger.closed] at hd
    exact (List.nodup_append.mp hd).1
  idle before k n after e ht := by
    obtain ⟨t, b, hr, rfl, _, next⟩ := h.split e
    obtain ⟨j, client, event, props, hj, _⟩ := hr.trackRun_of_tracking ht
    generalize ha : t.stage k = a at next
    cases next with
    | @offClose held =>
      have hnone := hr.guarded.knows k none (by rw [ha]; rfl)
      have hsome := hr.guarded.knows j (some client) (by rw [hj]; rfl)
      rw [hnone] at hsome
      cases hsome
  unclosed before k n event props after e hc := by
    obtain ⟨t, b, hr, rfl, _, next⟩ := h.split e
    generalize ha : t.stage k = a at next
    cases next with
    | @track client =>
      have hsink := hr.guarded.knows k (some client) (by rw [ha]; rfl)
      have hd := hr.ledger.nodup
      rw [← hr.ledger.closed, State.unclosed, hsink] at hd
      exact (List.nodup_append.mp hd).2.2 _ hc _ (List.mem_singleton_self _) rfl
  count hquiet := by
    have hfree : s.shared.transition = none := by
      refine Option.eq_none_iff_forall_ne_some.mpr fun k hk => ?_
      obtain ⟨hs, hu⟩ := h.switches_of_locks ((h.guarded.transition k).mp hk)
      exact hquiet k hs hu
    rw [← h.ledger.closed, State.unclosed, State.switcher_of_free hfree, List.length_append]
    cases s.shared.sink <;> rfl

end

/-- It is so once the client was closed that was still tracking while another had begun to switch
off. -/
theorem soleOwner_fourCallers : ∃ s, Reachable fourCallers s ∧ (2, .startClose 1) ∈ s.past ∧
    SoleOwner fourCallers s := by
  obtain ⟨s, h, hp⟩ := reachable_fourCallers
  exact ⟨s, h, by rw [hp]; simp [fourPast], h.soleOwner⟩

end TelemetryGate.Callers
