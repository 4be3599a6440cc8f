import TelemetryGate.Proofs.Callers.Run

/-!
# What the locks keep

The stage of a caller says which locks it holds, and a caller that holds one knows what is behind
the lock of the handle as long as it holds it.

* `Stage.locks`, `reads`, `writes`   which locks are held at a stage;
* `Stage.knows`                      what a caller at a stage knows to be behind the lock;
* `Guarded`                          locks and stages agree, writing excludes reading, and what is
                                     known is so;
* `Reachable.guarded`                that holds at every time.
-/

namespace TelemetryGate.Callers

/-! ### what a stage holds and knows -/

/-- whether the lock for transitions is held -/
def Stage.locks : Stage → Bool
  | onEnter _ | onLook _ | onLooked _ _ | onAbsent _ | onCreate _ | onCreated _ | onSwap _
  | onSwapped _ | offEnter | offSwap | offSwapped _ | offHeld _ | offClose _ | unlocking _ => true
  | _ => false

/-- whether the lock of the handle is held to read -/
def Stage.reads : Stage → Bool
  | onLook _ | onLooked _ _ | readLook _ | trackHeld _ _ _ | trackRun _ _ _ | readDone _ => true
  | _ => false

/-- whether the lock of the handle is held to write -/
def Stage.writes : Stage → Bool
  | onSwap _ | onSwapped _ | offSwap | offSwapped _ => true
  | _ => false

/-- What is known to be behind the lock of the handle: whoever is about to put a client there knows
that there is none, and whoever tracks knows its client to be there. -/
def Stage.knows : Stage → Option (Option LiveClient)
  | onLooked _ found => some found
  | onAbsent _ | onCreate _ | onCreated _ | onSwap _ => some none
  | onSwapped client => some (some client)
  | offSwapped _ | offHeld _ | offClose _ => some none
  | trackHeld client _ _ | trackRun client _ _ => some (some client)
  | _ => none

section
variable (e : Errand) (q : Question) (found : Option LiveClient)

@[simp] theorem Errand.locks_start : e.start.locks = false := by cases e <;> rfl
@[simp] theorem Errand.reads_start : e.start.reads = false := by cases e <;> rfl
@[simp] theorem Errand.writes_start : e.start.writes = false := by cases e <;> rfl
@[simp] theorem Errand.knows_start : e.start.knows = none := by cases e <;> rfl

@[simp] theorem Question.locks_seen : (q.seen found).locks = false := by
  cases q <;> cases found <;> rfl
@[simp] theorem Question.reads_seen : (q.seen found).reads = true := by
  cases q <;> cases found <;> rfl
@[simp] theorem Question.writes_seen : (q.seen found).writes = false := by
  cases q <;> cases found <;> rfl

theorem Question.knows_seen {known : Option LiveClient} (h : (q.seen found).knows = some known) :
    known = found := by
  cases q <;> cases found <;> cases h
  rfl

end

theorem Stage.held_of_knows {a : Stage} {known : Option LiveClient} (h : a.knows = some known) :
    a.locks = true ∨ a.reads = true := by
  cases a <;> first | cases h; done | exact .inl rfl | exact .inr rfl

theorem Stage.locks_of_writes {a : Stage} (h : a.writes = true) : a.locks = true := by
  cases a <;> first | cases h; done | rfl

/-! ### one step -/

section
variable {κ : Type} [DecidableEq κ] {c : Call} {a b : Stage} {act : Act} {s : Shared κ} {j k : κ}

theorem Stage.Next.transition_iff (next : Stage.Next c a act b)
    (h : s.transition = some j ↔ a.locks = true) :
    (act.effect j s).transition = some j ↔ b.locks = true := by
  cases next with
  | begin => rw [Errand.locks_start]; exact h
  | onLock => exact iff_of_true rfl rfl
  | offLock => exact iff_of_true rfl rfl
  | unlock => exact iff_of_false (fun e => nomatch e) (fun e => nomatch e)
  | look => rw [Question.locks_seen]; exact h
  | _ => exact h

theorem Stage.Next.writer_iff (next : Stage.Next c a act b)
    (h : s.writer = some j ↔ a.writes = true) :
    (act.effect j s).writer = some j ↔ b.writes = true := by
  cases next with
  | begin => rw [Errand.writes_start]; exact h
  | onWrite => exact iff_of_true rfl rfl
  | offWrite => exact iff_of_true rfl rfl
  | onDone => exact iff_of_false (fun e => nomatch e) (fun e => nomatch e)
  | offNothing => exact iff_of_false (fun e => nomatch e) (fun e => nomatch e)
  | offHeld => exact iff_of_false (fun e => nomatch e) (fun e => nomatch e)
  | look => rw [Question.writes_seen]; exact h
  | _ => exact h

theorem Stage.Next.readers_iff (next : Stage.Next c a act b)
    (h : j ∈ s.readers ↔ a.reads = true) :
    j ∈ (act.effect j s).readers ↔ b.reads = true := by
  cases next with
  | begin => rw [Errand.reads_start]; exact h
  | onRead => exact iff_of_true (Finset.mem_insert_self ..) rfl
  | read => exact iff_of_true (Finset.mem_insert_self ..) rfl
  | onFound => exact iff_of_false (Finset.notMem_erase j s.readers) (fun e => nomatch e)
  | onAbsent => exact iff_of_false (Finset.notMem_erase j s.readers) (fun e => nomatch e)
  | readDone => exact iff_of_false (Finset.notMem_erase j s.readers) (fun e => nomatch e)
  | look => rw [Question.reads_seen]; exact h
  | _ => exact h

theorem Stage.Next.transition_other (next : Stage.Next c a act b) (ready : act.Ready s)
    (h : s.transition = some j ↔ a.locks = true) (hk : k ≠ j) :
    (act.effect j s).transition = some k ↔ s.transition = some k := by
  have hj : some j ≠ some k := fun e => hk (Option.some.inj e).symm
  have hfree : s.transition = none → s.transition ≠ some k := fun e => by rw [e]; simp
  cases next with
  | onLock => exact iff_of_false hj (hfree ready)
  | offLock => exact iff_of_false hj (hfree ready)
  | unlock => exact iff_of_false (fun e => nomatch e) (by rw [h.mpr rfl]; exact hj)
  | _ => exact Iff.rfl

theorem Stage.Next.writer_other (next : Stage.Next c a act b) (ready : act.Ready s)
    (h : s.writer = some j ↔ a.writes = true) (hk : k ≠ j) :
    (act.effect j s).writer = some k ↔ s.writer = some k := by
  have hj : some j ≠ some k := fun e => hk (Option.some.inj e).symm
  have hfree : s.writer = none → s.writer ≠ some k := fun e => by rw [e]; simp
  have hheld : a.writes = true → s.writer ≠ some k := fun e => by rw [h.mpr e]; exact hj
  cases next with
  | onWrite => exact iff_of_false hj (hfree ready.1)
  | offWrite => exact iff_of_false hj (hfree ready.1)
  | onDone => exact iff_of_false (fun e => nomatch e) (hheld rfl)
  | offNothing => exact iff_of_false (fun e => nomatch e) (hheld rfl)
  | offHeld => exact iff_of_false (fun e => nomatch e) (hheld rfl)
  | _ => exact Iff.rfl

theorem Act.readers_other (hk : k ≠ j) : k ∈ (act.effect j s).readers ↔ k ∈ s.readers := by
  cases act with
  | endCreate made => cases made <;> rfl
  | startRead => simp [Act.effect, hk]
  | endRead => simp [Act.effect, hk]
  | _ => rfl

theorem Act.apart_effect (ready : act.Ready s) (h : s.writer = none ∨ s.readers = ∅) :
    (act.effect j s).writer = none ∨ (act.effect j s).readers = ∅ := by
  cases act with
  | endCreate made => cases made <;> exact h
  | startRead => exact .inl ready
  | startWrite => exact .inr ready.2
  | endRead =>
    rcases h with h | h
    · exact .inl h
    · exact .inr (by simp [Act.effect, h])
  | endWrite => exact .inl rfl
  | _ => exact h

theorem Stage.Next.sink_kept (next : Stage.Next c a act b) (h : a.writes = false) :
    (act.effect j s).sink = s.sink := by
  cases next <;> first | rfl | cases h

theorem Stage.Next.knows_sink (next : Stage.Next c a act b) (ready : act.Ready s)
    (h : ∀ found, a.knows = some found → s.sink = found) {found : Option LiveClient}
    (hb : b.knows = some found) : (act.effect j s).sink = found := by
  cases next with
  | begin => simp at hb
  | onLook => cases hb; exact ready
  | onAbsent => cases hb; exact h none rfl
  | onCreate => cases hb; exact h none rfl
  | onCreated _ => cases hb; exact h none rfl
  | onWrite => cases hb; exact h none rfl
  | onPut => cases hb; rfl
  | offTake => cases hb; rfl
  | offHeld => cases hb; exact h none rfl
  | offClose => cases hb; exact h none rfl
  | look => rw [Question.knows_seen _ _ hb]; exact ready
  | track => cases hb; exact h _ rfl
  | _ => cases hb

end

/-! ### every state -/

section
variable {κ : Type} {s t : State κ}

/-- Locks and stages agree, writing excludes reading, and what is known is so. -/
structure Guarded (s : State κ) : Prop where
  transition : ∀ k, s.shared.transition = some k ↔ (s.stage k).locks = true
  writer : ∀ k, s.shared.writer = some k ↔ (s.stage k).writes = true
  readers : ∀ k, k ∈ s.shared.readers ↔ (s.stage k).reads = true
  apart : s.shared.writer = none ∨ s.shared.readers = ∅
  knows : ∀ k found, (s.stage k).knows = some found → s.shared.sink = found

theorem Guarded.start : Guarded ({} : State κ) where
  transition _ := by simp [Stage.locks]
  writer _ := by simp [Stage.writes]
  readers _ := by simp [Stage.reads]
  apart := .inl rfl
  knows _ _ h := by simp [Stage.knows] at h

theorem Guarded.eq_of_locks (h : Guarded s) {j k : κ} (hj : (s.stage j).locks = true)
    (hk : (s.stage k).locks = true) : j = k :=
  Option.some.inj (((h.transition j).mpr hj).symm.trans ((h.transition k).mpr hk))

/-- While one caller writes, the others know nothing. -/
theorem Guarded.knows_of_writes (h : Guarded s) {j k : κ} (hj : (s.stage j).writes = true)
    (hk : k ≠ j) : (s.stage k).knows = none := by
  cases hn : (s.stage k).knows with
  | none => rfl
  | some found =>
    rcases Stage.held_of_knows hn with hl | hr
    · exact absurd (h.eq_of_locks hl (Stage.locks_of_writes hj)) hk
    · have hw := (h.writer j).mpr hj
      have hm := (h.readers k).mpr hr
      rcases h.apart with e | e
      · rw [e] at hw; cases hw
      · rw [e] at hm; simp at hm

variable [DecidableEq κ] {calls : κ → Call}

theorem Guarded.step (h : Guarded s) (st : Step calls s t) : Guarded t := by
  cases st with
  | @act j act b ready next =>
    constructor
    · intro k
      by_cases e : k = j
      · subst e
        rw [State.stage_after_self]
        exact next.transition_iff (h.transition k)
      · rw [State.stage_after_of_ne s e, ← h.transition k]
        exact next.transition_other ready (h.transition j) e
    · intro k
      by_cases e : k = j
      · subst e
        rw [State.stage_after_self]
        exact next.writer_iff (h.writer k)
      · rw [State.stage_after_of_ne s e, ← h.writer k]
        exact next.writer_other ready (h.writer j) e
    · intro k
      by_cases e : k = j
      · subst e
        rw [State.stage_after_self]
        exact next.readers_iff (h.readers k)
      · rw [State.stage_after_of_ne s e, ← h.readers k]
        exact Act.readers_other e
    · exact Act.apart_effect ready h.apart
    · intro k found hk
      by_cases e : k = j
      · subst e
        rw [State.stage_after_self] at hk
        exact next.knows_sink ready (h.knows k) hk
      · rw [State.stage_after_of_ne s e] at hk
        cases hw : (s.stage j).writes with
        | true => rw [h.knows_of_writes hw e] at hk; cases hk
        | false =>
          show (act.effect j s.shared).sink = found
          rw [next.sink_kept hw]
          exact h.knows k found hk

theorem Reachable.guarded (h : Reachable calls s) : Guarded s := by
  induction h with
  | start => exact .start
  | step _ st ih => exact ih.step st

end

end TelemetryGate.Callers
