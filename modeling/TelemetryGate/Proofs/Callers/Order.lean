import TelemetryGate.Proofs.Callers.Clients
import TelemetryGate.Proofs.Manager

/-!
# One after another

What callers at once are answered is what they would be answered one after another, each in the
moment of the step that settles its outcome: the look that finds a client, the failed creation, the
put, the take.

* `replay`             the calls of an order made one after another;
* `Precedes`           a call returned before another one began;
* `Linearizes`         an order in which the calls made one after another are those of the run;
* `Stage.Next.settles` the settling step does what the manager alone does;
* `Settled`            the order in which outcomes were settled so far.
-/

namespace TelemetryGate.Callers

variable {κ : Type}

/-! ### calls one after another -/

/-- The manager after the calls of an order, one after another. -/
def replay (calls : κ → Call) (order : List κ) : Manager :=
  order.foldl (fun m k => ((calls k).run m).state) {}

theorem replay_snoc (calls : κ → Call) (order : List κ) (k : κ) :
    replay calls (order ++ [k]) = ((calls k).run (replay calls order)).state := by
  simp only [replay, List.foldl_append, List.foldl_cons, List.foldl_nil]

/-- The first call returned before the second one began. -/
def Precedes (past : List (κ × Act)) (j k : κ) : Prop :=
  ∃ before answer after, past = before ++ (k, .begin) :: after ∧ (j, .finish answer) ∈ before

theorem Precedes.returned {past : List (κ × Act)} {j k : κ} (h : Precedes past j k) :
    ∃ answer, (j, .finish answer) ∈ past := by
  obtain ⟨before, answer, after, rfl, hj⟩ := h
  exact ⟨answer, List.mem_append_left _ hj⟩

theorem Precedes.of_snoc {past : List (κ × Act)} {i j k : κ} {act : Act}
    (h : Precedes (past ++ [(i, act)]) j k) :
    Precedes past j k ∨ (i = k ∧ act = .begin ∧ ∃ answer, (j, .finish answer) ∈ past) := by
  obtain ⟨before, answer, after, e, hj⟩ := h
  rcases split_snoc e with ⟨rfl, he⟩ | ⟨rest, rfl⟩
  · cases he
    exact .inr ⟨rfl, rfl, answer, hj⟩
  · exact .inl ⟨before, answer, rest, rfl, hj⟩

/-- What holds at every place of an order holds at every place of a longer one if it holds of the
new element. -/
theorem everywhere_snoc {P : List κ → κ → Prop} {order : List κ} {i : κ}
    (h : ∀ before k after, order = before ++ k :: after → P before k) (hi : P order i) :
    ∀ before k after, order ++ [i] = before ++ k :: after → P before k := by
  intro before k after e
  rcases split_snoc e with ⟨rfl, rfl⟩ | ⟨rest, rfl⟩
  · exact hi
  · exact h before k rest rfl

section
variable [DecidableEq κ]

/-- What a caller made clients do, in order. -/
def clientCalls (k : κ) (past : List (κ × Act)) : List ClientCall := (deeds k past).flatMap Act.made

/-- Made one after another in the order, the calls are those of the run: all that returned are in
it, after those that had returned when they began, with the answers they got and with what they made
clients do. Of those that have not returned, some are in it. -/
structure Linearizes (calls : κ → Call) (past : List (κ × Act)) (order : List κ) : Prop where
  nodup : order.Nodup
  returned : ∀ k answer, (k, .finish answer) ∈ past → k ∈ order
  begun : ∀ k ∈ order, (k, .begin) ∈ past
  realTime : ∀ before k after, order = before ++ k :: after → ∀ j, Precedes past j k → j ∈ before
  answered : ∀ before k after, order = before ++ k :: after → ∀ answer, (k, .finish answer) ∈ past →
    ((calls k).run (replay calls before)).answer = answer ∧
      ((calls k).run (replay calls before)).calls = clientCalls k past
  underWay : ∀ before k after, order = before ++ k :: after →
    clientCalls k past <+: ((calls k).run (replay calls before)).calls

theorem clientCalls_self (k : κ) (past : List (κ × Act)) (act : Act) :
    clientCalls k (past ++ [(k, act)]) = clientCalls k past ++ act.made := by
  rw [clientCalls, deeds_append, deeds_self, List.flatMap_append, List.flatMap_singleton]
  rfl

theorem clientCalls_of_ne {k j : κ} (h : j ≠ k) (past : List (κ × Act)) (act : Act) :
    clientCalls k (past ++ [(j, act)]) = clientCalls k past := by
  rw [clientCalls, deeds_append, deeds_of_ne h, List.append_nil]
  rfl

end

/-! ### the step that settles -/

theorem Stage.made_of_promise {c : Call} {a : Stage} {p : Answer × List ClientCall}
    (h : a.promise c = some p) : a.made = [] := by
  cases a <;> first | rfl | cases h

theorem Stage.made_of_not_locks {a : Stage} (h : a.locks = false) : a.made = [] := by
  cases a <;> first | rfl | cases h

section
variable [DecidableEq κ] {c : Call} {a b : Stage} {act : Act} {s : Shared κ} {j : κ} {m : Manager}

theorem Question.settles (q : Question) (c : Call) {found : Option LiveClient}
    (hm : m.live = found) :
    (q.seen found).promise c =
        some ((q.run c.outcomes m).answer, (q.run c.outcomes m).calls) ∧
      (q.run c.outcomes m).state = m := by
  obtain ⟨live, created⟩ := m
  obtain rfl : live = found := hm
  cases q with
  | track event props =>
    cases live with
    | none => exact ⟨rfl, rfl⟩
    | some client => exact ⟨rfl, rfl⟩
  | isEnabled => exact ⟨rfl, rfl⟩
  | status => exact ⟨rfl, rfl⟩

/-- **The step that settles the outcome does what the manager alone does with the call.** -/
theorem Stage.Next.settles (next : Stage.Next c a act b) (ready : act.Ready s) (ha : a.Serves c)
    (hk : ∀ found, a.knows = some found → s.sink = found) (hm : m.live = s.sink)
    (hn : ∀ client, a = .onSwap client → client.number = m.created + 1)
    (hp : a.promise c = none) (hb : b.promise c ≠ none) :
    ∃ rest, b.promise c = some ((c.run m).answer, rest) ∧
      (c.run m).calls = a.made ++ act.made ++ rest ∧
      (c.run m).state.live = (act.effect j s).sink ∧
      (c.run m).state.created = m.created + a.made.length := by
  cases next with
  | @onLook config found =>
    cases found with
    | none => exact absurd rfl hb
    | some client =>
      rw [Call.run_on ha, Manager.enable_of_live (hm.trans ready)]
      exact ⟨[], rfl, rfl, hm, rfl⟩
  | @onRefused config e he =>
    rw [Call.run_on ha, Manager.enable_of_refused (hm.trans (hk none rfl)) he]
    exact ⟨[], rfl, rfl, hm, rfl⟩
  | @onPut client =>
    obtain ⟨number, config⟩ := client
    obtain rfl : number = m.created + 1 := hn _ rfl
    rw [Call.run_on ha.1, Manager.enable_of_made (hm.trans (hk none rfl)) ha.2]
    exact ⟨[], rfl, rfl, rfl, rfl⟩
  | @offTake found =>
    rw [Call.run_off ha]
    cases found with
    | none =>
      rw [Manager.disable_of_none (hm.trans ready)]
      exact ⟨[], rfl, rfl, hm.trans ready, rfl⟩
    | some client =>
      rw [Manager.disable_of_live (hm.trans ready)]
      exact ⟨_, rfl, rfl, rfl, rfl⟩
  | @look q found =>
    obtain ⟨hs, hstate⟩ := q.settles c (hm.trans ready)
    rw [Call.run_ask ha, hstate]
    exact ⟨_, hs, rfl, hm, rfl⟩
  | begin => exact absurd Stage.promise_start hb
  | offClosed => cases hp
  | tracked => cases hp
  | unlock => cases hp
  | readDone => cases hp
  | finish => cases hp
  | _ => first | exact absurd rfl hb | cases hp

theorem Stage.Next.created_kept (next : Stage.Next c a act b) (hb : b.made = []) :
    (act.effect j s).created = s.created := by
  cases next with
  | onCreated _ => cases hb
  | _ => rfl

/-- Every other step leaves the handle alone, and makes no client but one that its caller holds. -/
theorem Stage.Next.settles_nothing (next : Stage.Next c a act b) (ready : act.Ready s)
    (h : b.promise c ≠ none → a.promise c ≠ none) :
    (act.effect j s).sink = s.sink ∧
      (act.effect j s).created + a.made.length = s.created + b.made.length := by
  cases next with
  | begin => rw [Stage.made_start]; exact ⟨rfl, rfl⟩
  | @onCreated config n _ =>
    obtain rfl : n = s.created + 1 := ready
    exact ⟨rfl, rfl⟩
  | onPut => exact absurd rfl (h (fun e => nomatch e))
  | @offTake found => cases found <;> exact absurd rfl (h (fun e => nomatch e))
  | @look q found => cases q <;> cases found <;> exact ⟨rfl, rfl⟩
  | _ => exact ⟨rfl, rfl⟩

end

/-! ### after switching off -/

theorem Question.run_state (q : Question) (o : Outcomes) (m : Manager) : (q.run o m).state = m :=
  (q.settles ⟨.status, o⟩ rfl).2

theorem Call.live_of_off {c : Call} (h : c.request.errand = .off) (m : Manager) :
    (c.run m).state.live = none := by
  rw [Call.run_off h]
  exact m.disable_live c.outcomes

/-- Only switching on makes something live. -/
theorem Call.live_of_not_on {c : Call} (h : ∀ config, c.request.errand ≠ .on config) {m : Manager}
    (hm : m.live = none) : (c.run m).state.live = none := by
  cases e : c.request.errand with
  | on config => exact absurd e (h config)
  | off => exact Call.live_of_off e m
  | ask q => rw [Call.run_ask e, Question.run_state]; exact hm

theorem replay_live {calls : κ → Call} {before more : List κ}
    (h : (replay calls before).live = none)
    (hmore : ∀ i ∈ more, ∀ config, (calls i).request.errand ≠ .on config) :
    (replay calls (before ++ more)).live = none := by
  induction more generalizing before with
  | nil => rwa [List.append_nil]
  | cons i more ih =>
    rw [List.append_cons]
    refine ih ?_ fun k hk => hmore k (List.mem_cons_of_mem _ hk)
    rw [replay_snoc]
    exact Call.live_of_not_on (hmore i List.mem_cons_self) h

/-! ### the order of settling -/

section
variable [DecidableEq κ] {calls : κ → Call} {s t : State κ}

/-- A call was settled as if it had been made after those before it. -/
def AsAlone (calls : κ → Call) (s : State κ) (before : List κ) (k : κ) : Prop :=
  ∃ rest, (s.stage k).promise (calls k) =
      some (((calls k).run (replay calls before)).answer, rest) ∧
    ((calls k).run (replay calls before)).calls = clientCalls k s.past ++ rest

/-- The order in which outcomes were settled so far, and the manager that it leads to. -/
structure Settled (calls : κ → Call) (s : State κ) (order : List κ) : Prop where
  nodup : order.Nodup
  mem : ∀ k, k ∈ order ↔ (s.stage k).promise (calls k) ≠ none
  live : (replay calls order).live = s.shared.sink
  created : (replay calls order).created + s.switcher.made.length = s.shared.created
  realTime : ∀ before k after, order = before ++ k :: after → ∀ j, Precedes s.past j k → j ∈ before
  asAlone : ∀ before k after, order = before ++ k :: after → AsAlone calls s before k

variable {j : κ} {act : Act} {b : Stage} {order : List κ}

theorem AsAlone.step {before : List κ} {k : κ} (h : AsAlone calls s before k)
    (next : Stage.Next (calls j) (s.stage j) act b) : AsAlone calls (s.after j act b) before k := by
  obtain ⟨rest, hp, hr⟩ := h
  by_cases e : j = k
  · subst e
    obtain ⟨rest', hp', rfl⟩ := next.promise_kept hp
    refine ⟨rest', ?_, ?_⟩
    · rw [State.stage_after_self, hp']
    · rw [hr, ← List.append_assoc, ← clientCalls_self]
      rfl
  · refine ⟨rest, ?_, ?_⟩
    · rw [State.stage_after_of_ne s (Ne.symm e), hp]
    · rw [hr, ← clientCalls_of_ne e s.past act]
      rfl

/-- The client that is about to be put behind the lock is the last one that was made. -/
theorem Reachable.number_onSwap (h : Reachable calls s) {client : LiveClient}
    (hj : s.stage j = .onSwap client) : client.number = s.shared.created := by
  have hsink : s.shared.sink = none := h.guarded.knows j none (by rw [hj]; rfl)
  have hswitch : s.switcher = .onSwap client := by
    rw [h.guarded.switcher_of_locks (by rw [hj]; rfl), hj]
  have hl : closings s.past ++ [client.number] = List.range' 1 s.shared.created := by
    rw [← h.ledger.made, ← h.ledger.closed, State.unclosed, hsink, hswitch]
    rfl
  cases hc : s.shared.created with
  | zero =>
    rw [hc] at hl
    exact absurd hl (by simp)
  | succ n =>
    rw [hc, List.range'_1_concat] at hl
    have := List.singleton_inj.mp (List.append_inj' hl rfl).2
    omega

theorem Settled.mem_of_finish (h : Settled calls s order) (hr : Reachable calls s) {k : κ}
    {answer : Answer} (hf : (k, .finish answer) ∈ s.past) : k ∈ order := by
  rw [h.mem, hr.returned hf]
  exact fun e => nomatch e

theorem Settled.realTime_step (h : Settled calls s order)
    (next : Stage.Next (calls j) (s.stage j) act b) :
    ∀ before k after, order = before ++ k :: after →
      ∀ i, Precedes (s.past ++ [(j, act)]) i k → i ∈ before := by
  intro before k after e i hi
  rcases hi.of_snoc with hi | ⟨rfl, rfl, _⟩
  · exact h.realTime before k after e i hi
  · -- whoever begins now was not settled
    have hk := (h.mem j).mp (e ▸ List.mem_append_right _ List.mem_cons_self)
    generalize s.stage j = a at next hk
    cases next
    exact absurd rfl hk

theorem Settled.step_of_imp (h : Settled calls s order) (hr : Reachable calls s)
    (ready : act.Ready s.shared) (next : Stage.Next (calls j) (s.stage j) act b)
    (hp : b.promise (calls j) ≠ none → (s.stage j).promise (calls j) ≠ none) :
    Settled calls (s.after j act b) order := by
  obtain ⟨hsink, hcreated⟩ := next.settles_nothing (j := j) ready hp
  constructor
  · exact h.nodup
  · intro k
    rw [h.mem k]
    by_cases e : k = j
    · subst e
      rw [State.stage_after_self]
      exact ⟨fun ha hb => ha (next.promise_none hb), hp⟩
    · rw [State.stage_after_of_ne s e]
  · exact h.live.trans hsink.symm
  · have hc := h.created
    show _ = (act.effect j s.shared).created
    rcases hr.guarded.switcher_step Stage.made (fun a => Stage.made_of_not_locks) ready next
      with ⟨ha, hb⟩ | ⟨hk, ha, hb⟩
    · rw [ha] at hc
      rw [hb]
      omega
    · rw [ha, hb] at hcreated
      rw [hk, hc]
      exact hcreated.symm
  · exact h.realTime_step next
  · exact fun before k after e => (h.asAlone before k after e).step next

/-- A step that settles the outcome of its caller puts the caller at the end of the order. -/
theorem Settled.step_of_settles (h : Settled calls s order) (hr : Reachable calls s)
    (ready : act.Ready s.shared) (next : Stage.Next (calls j) (s.stage j) act b)
    (hp : (s.stage j).promise (calls j) = none) (hb : b.promise (calls j) ≠ none) :
    Settled calls (s.after j act b) (order ++ [j]) := by
  have hj : j ∉ order := fun hj => (h.mem j).mp hj hp
  have hself : (s.after j act b).stage j = b := s.stage_after_self j act b
  have hc := h.created
  have hn : ∀ client, s.stage j = .onSwap client →
      client.number = (replay calls order).created + 1 := by
    intro client e
    rw [hr.guarded.switcher_of_locks (by rw [e]; rfl), e] at hc
    exact (hr.number_onSwap e).trans hc.symm
  obtain ⟨rest, hrest, hcalls, hlive, hcreated⟩ :=
    next.settles (j := j) ready (hr.serves j) (hr.guarded.knows j) h.live hn hp hb
  constructor
  · exact List.nodup_append.mpr ⟨h.nodup, List.nodup_singleton j, fun x hx y hy e => by
      rw [List.mem_singleton.mp hy] at e
      exact hj (e ▸ hx)⟩
  · intro k
    rw [List.mem_append, h.mem k, List.mem_singleton]
    by_cases e : k = j
    · rw [e, hself]
      exact iff_of_true (.inr rfl) hb
    · rw [State.stage_after_of_ne s e]
      exact or_iff_left e
  · rw [replay_snoc]
    exact hlive
  · -- the client that is put there was made before, and counted as not put there yet
    rw [replay_snoc, hcreated]
    have hmade : b.made = [] := Stage.made_of_promise hrest
    have hkept := next.created_kept (j := j) (s := s.shared) hmade
    show _ = (act.effect j s.shared).created
    rcases hr.guarded.switcher_step Stage.made (fun a => Stage.made_of_not_locks) ready next
      with ⟨ha, hb⟩ | ⟨hk, ha, hb⟩
    · rw [hb, hmade, hkept, ← hc, ha]
      rfl
    · rw [hk, ha, hkept]
      exact hc
  · refine everywhere_snoc (h.realTime_step next) fun i hi => ?_
    rcases hi.of_snoc with hi | ⟨_, _, answer, hf⟩
    · obtain ⟨answer, hf⟩ := hi.returned
      exact h.mem_of_finish hr hf
    · exact h.mem_of_finish hr hf
  · refine everywhere_snoc (fun before k after e => (h.asAlone before k after e).step next) ?_
    refine ⟨rest, by rw [hself]; exact hrest, ?_⟩
    rw [hcalls]
    congr 1
    show _ = clientCalls j (s.past ++ [(j, act)])
    rw [clientCalls_self]
    congr 1
    exact ((hr.path j).made_eq hp).symm

theorem Reachable.settled (h : Reachable calls s) : ∃ order, Settled calls s order := by
  -- along the run, a caller comes to the end of the order with the step that settles its outcome
  induction h with
  | start =>
    refine ⟨[], List.nodup_nil, fun k => ?_, rfl, rfl, ?_, ?_⟩
    · exact iff_of_false List.not_mem_nil fun e => e rfl
    · exact fun before k after e => absurd e (by simp)
    · exact fun before k after e => absurd e (by simp)
  | @step s t h st ih =>
    obtain ⟨order, ho⟩ := ih
    cases st with
    | @act j act b ready next =>
      by_cases hp : (s.stage j).promise (calls j) = none
      · by_cases hb : b.promise (calls j) = none
        · exact ⟨order, ho.step_of_imp h ready next fun e => absurd hb e⟩
        · exact ⟨order ++ [j], ho.step_of_settles h ready next hp hb⟩
      · exact ⟨order, ho.step_of_imp h ready next fun _ => hp⟩

theorem Settled.linearizes (h : Settled calls s order) (hr : Reachable calls s) :
    Linearizes calls s.past order where
  nodup := h.nodup
  returned _ _ hf := h.mem_of_finish hr hf
  begun k hk := hr.begun fun e => (h.mem k).mp hk (by rw [e]; rfl)
  realTime := h.realTime
  answered before k after e answer hf := by
    obtain ⟨rest, hp, hc⟩ := h.asAlone before k after e
    rw [hr.returned hf] at hp
    obtain ⟨ha, rfl⟩ := Prod.mk.inj (Option.some.inj hp)
    exact ⟨ha.symm, hc.trans (List.append_nil _)⟩
  underWay before k after e := by
    obtain ⟨rest, _, hc⟩ := h.asAlone before k after e
    exact ⟨rest, hc.symm⟩

theorem Linearizes.mem_iff (h : Linearizes calls s.past order) (hidle : ∀ k, ¬ UnderWay k s.past)
    (k : κ) : k ∈ order ↔ ∃ answer, (k, .finish answer) ∈ s.past := by
  refine ⟨fun hk => ?_, fun ⟨answer, hf⟩ => h.returned k answer hf⟩
  by_contra hn
  exact hidle k ⟨h.begun k hk, fun answer hf => hn ⟨answer, hf⟩⟩

/-- Nobody switches on between the two calls of the order, the first of which switches off. -/
theorem Settled.live_between (h : Settled calls s order) (hr : Reachable calls s) {k : κ}
    {first middle last : List κ} (e : order = first ++ j :: (middle ++ k :: last))
    (hj : (calls j).request.errand = .off)
    (hon : ∀ i config, (calls i).request.errand = .on config → (i, .begin) ∈ s.past →
      Precedes s.past i j ∨ Precedes s.past k i) :
    (replay calls (first ++ j :: middle)).live = none := by
  rw [List.append_cons]
  refine replay_live (by rw [replay_snoc]; exact Call.live_of_off hj _) fun i hi config hc => ?_
  obtain ⟨x, y, rfl⟩ := List.append_of_mem hi
  -- one that switched on in between would stand before the first call, or after the second one
  have hd := h.nodup
  have hbegun : (i, .begin) ∈ s.past := (h.linearizes hr).begun i (by simp [e])
  rcases hon i config hc hbegun with hp | hp
  · have hm := h.realTime _ j _ e i hp
    rw [e, List.nodup_append] at hd
    exact hd.2.2 i hm i (by simp) rfl
  · have e' : order = (first ++ j :: x) ++ i :: (y ++ k :: last) := by simp [e]
    have hm := h.realTime _ i _ e' k hp
    rw [e', List.nodup_append] at hd
    exact hd.2.2 k hm k (by simp) rfl

/-- **However the steps of callers interleave, they are answered, and make clients do, what they
would one after another, in an order that keeps what came before what.** So a call that tracks and
began after another one had switched off reaches no client if nobody switched on meanwhile. -/
theorem Reachable.linearizable (h : Reachable calls s) :
    (∃ order, Linearizes calls s.past order ∧ ((∀ k, ¬ UnderWay k s.past) →
      ∀ k, k ∈ order ↔ ∃ answer, (k, .finish answer) ∈ s.past)) ∧
    ∀ j k event props, (calls j).request.errand = .off →
      (calls k).request.errand = .ask (.track event props) → Precedes s.past j k →
      (∀ i config, (calls i).request.errand = .on config → (i, .begin) ∈ s.past →
        Precedes s.past i j ∨ Precedes s.past k i) →
      ∀ n event' props', (k, .startTrack n event' props') ∉ s.past := by
  obtain ⟨order, ho⟩ := h.settled
  refine ⟨⟨order, ho.linearizes h, (ho.linearizes h).mem_iff⟩, ?_⟩
  intro j k event props hj hk hjk hon n event' props' hs
  obtain ⟨answer, rest, failure, hp, hm⟩ := (h.path k).track_promised (mem_deeds.mpr hs)
  -- the call that tracks is settled, after the one that switched off
  have hmem : k ∈ order := (ho.mem k).mpr (by rw [hp]; exact fun e => nomatch e)
  obtain ⟨before, last, e⟩ := List.append_of_mem hmem
  obtain ⟨first, middle, rfl⟩ := List.append_of_mem (ho.realTime before k last e j hjk)
  have e' : order = first ++ j :: (middle ++ k :: last) := by rw [e, List.append_assoc]; rfl
  have hlive := ho.live_between h e' hj hon
  obtain ⟨rest', hp', hc⟩ := ho.asAlone _ k last e
  rw [hp] at hp'
  obtain ⟨_, rfl⟩ := Prod.mk.inj (Option.some.inj hp')
  have hnone : ((calls k).run (replay calls (first ++ j :: middle))).calls = [] := by
    rw [Call.run_ask hk]
    show (Manager.track event props _ _).calls = []
    rw [Manager.track_of_none hlive]
  rw [hnone] at hc
  have hm' : _ ∈ clientCalls k s.past ++ rest := hm
  rw [← hc] at hm'
  exact List.not_mem_nil hm'

end

/-- It is so of the callers of which the last one comes too late. -/
theorem linearizable_fourCallers : ∃ s, Reachable fourCallers s ∧
    (∃ order, Linearizes fourCallers s.past order) ∧ Precedes s.past 2 3 ∧
    ∀ n event props, (3, .startTrack n event props) ∉ s.past := by
  obtain ⟨s, h, hp⟩ := reachable_fourCallers
  have h02 : Precedes s.past 0 2 :=
    ⟨s.past.take 14, .switched (.ok ()), s.past.drop 15, by rw [hp]; rfl,
      by rw [hp]; simp [fourPast]⟩
  have h23 : Precedes s.past 2 3 :=
    ⟨s.past.take 28, .switched (.error (.close .closed)), s.past.drop 29, by rw [hp]; rfl,
      by rw [hp]; simp [fourPast]⟩
  obtain ⟨⟨order, ho, _⟩, hlate⟩ := h.linearizable
  refine ⟨s, h, ⟨order, ho⟩, h23, hlate 2 3 "user_raise_hand" [] rfl rfl h23 ?_⟩
  intro i config hi _
  rcases i with _ | _ | _ | i
  · exact .inl h02
  · cases hi
  · cases hi
  · cases hi

end TelemetryGate.Callers
