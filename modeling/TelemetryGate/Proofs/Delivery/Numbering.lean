import Mathlib.Data.Finset.Card
import Mathlib.Data.Nat.ModEq
import TelemetryGate.Delivery.Message
import TelemetryGate.Proofs.Decimal

/-!
# Ids of messages

Calls for an id at the grain of what they share: each reads the clock and the number of its
process, takes the number of the next message from the counter, and returns the text of the three.
Calls take their steps in any order, and the clock says what it likes.  A call is made once; whoever
makes several is as many callers.

* `MessageId.text_injective`          an id can be told from its text;
* `MessageCounter.next_after_eq_iff`  numbers come again when the counter has gone round;
* `Stage`, `Step`                     where a call stands, and one step of one call;
* `Reachable`                         the states that the calls of a process come to;
* `reachable_ofMoment`                the stamps of a run are returned one after another;
* `Numbered`                          which calls have a number, in the order in which they took it;
* `Reachable.ids_apart`               no two calls are given the same id.
-/

namespace TelemetryGate

/-! ### texts -/

section
variable {α : Type} {sep : α} {front front' between last last' : List α}

theorem eq_nil_of_separator (hlast : sep ∉ last) (h : sep :: last = between ++ sep :: last') :
    between = [] ∧ last = last' := by
  cases between with
  | nil => exact ⟨rfl, (List.cons.inj h).2⟩
  | cons c rest =>
    refine absurd ?_ hlast
    rw [(List.cons.inj h).2]
    exact List.mem_append_right _ List.mem_cons_self

/-- What stands before and behind the last of many separators. -/
theorem append_separator_inj (hlast : sep ∉ last) (hlast' : sep ∉ last')
    (h : front ++ sep :: last = front' ++ sep :: last') : front = front' ∧ last = last' := by
  rcases List.append_eq_append_iff.mp h with ⟨between, rfl, htail⟩ | ⟨between, rfl, htail⟩
  · obtain ⟨rfl, hbehind⟩ := eq_nil_of_separator hlast htail
    exact ⟨(List.append_nil _).symm, hbehind⟩
  · obtain ⟨rfl, hbehind⟩ := eq_nil_of_separator hlast' htail
    exact ⟨List.append_nil _, hbehind.symm⟩

end

namespace MessageId

theorem hyphen_not_mem (n : Nat) : '-' ∉ Nat.toDigits 10 n := by
  intro h
  exact absurd (Json.isDigit_of_mem h) (by decide)

theorem toList_text (i : MessageId) :
    i.text.toList = ("msg-".toList ++ (toString i.millis).toList ++
      '-' :: Nat.toDigits 10 i.process) ++ '-' :: Nat.toDigits 10 i.number := by
  show ("msg-" ++ toString i.millis ++ "-" ++ i.process.repr ++ "-" ++ i.number.repr).toList = _
  simp [Nat.toList_repr]

/-- An id can be told from its text. The last two numbers are found from the end, since the first
one may begin with a hyphen. -/
theorem text_injective : Function.Injective text := by
  intro i j h
  have hlist : i.text.toList = j.text.toList := congrArg String.toList h
  rw [toList_text, toList_text] at hlist
  obtain ⟨hfront, hnumber⟩ :=
    append_separator_inj (hyphen_not_mem _) (hyphen_not_mem _) hlist
  obtain ⟨hclock, hprocess⟩ :=
    append_separator_inj (hyphen_not_mem _) (hyphen_not_mem _) hfront
  have hmillis : some i.millis = some j.millis := by
    rw [← Decimal.readWhole?_toString, List.append_cancel_left hclock,
      Decimal.readWhole?_toString]
  have hdigits {m n : Nat} (h : Nat.toDigits 10 m = Nat.toDigits 10 n) : some m = some n := by
    rw [← Decimal.readDigits?_toDigits, h, Decimal.readDigits?_toDigits]
  obtain ⟨millis, process, number⟩ := i
  cases hmillis
  cases hdigits hprocess
  cases hdigits hnumber
  rfl

/-- The text of an id says what the clock and the counter said, and in which process. -/
theorem text_ofWords_inj {millis millis' : Int64} {process process' : UInt32}
    {number number' : UInt64}
    (h : (ofWords millis process number).text = (ofWords millis' process' number').text) :
    millis = millis' ∧ process = process' ∧ number = number' := by
  have hid := text_injective h
  rw [ofWords, ofWords, mk.injEq, Int64.toInt_inj, UInt32.toNat_inj, UInt64.toNat_inj] at hid
  exact hid

end MessageId

/-! ### numbers -/

/-- Numbers come again when the counter has gone round, and not before. -/
theorem MessageCounter.next_after_eq_iff {m n : Nat} :
    (after m).next = (after n).next ↔ m ≡ n [MOD 2 ^ 64] := by
  rw [← UInt64.toNat_inj]
  show (UInt64.ofNat (m + 1)).toNat = (UInt64.ofNat (n + 1)).toNat ↔ _
  rw [UInt64.toNat_ofNat', UInt64.toNat_ofNat']
  exact ⟨fun h => Nat.ModEq.add_right_cancel' 1 h, fun h => h.add_right 1⟩

/-! ### calls -/

namespace Numbering

open Function (update)

/-- Where a call stands. -/
inductive Stage where
  /-- it has not begun -/
  | unborn
  /-- it has read the clock -/
  | timed (millis : Int64)
  /-- it has also asked which process it is in -/
  | placed (millis : Int64) (process : UInt32)
  /-- it has also taken a number, and only writes them down -/
  | numbered (millis : Int64) (process : UInt32) (number : UInt64)
  | returned (id : String)

/-- The counter that calls share, and where every call stands. -/
structure State (κ : Type) where
  counter : MessageCounter := {}
  stage : κ → Stage := fun _ => .unborn

section
variable {κ : Type} [DecidableEq κ]

/-- The state when the number of the counter is given away. -/
def State.advance (s : State κ) : State κ := { s with counter := s.counter.advance }

def State.to (s : State κ) (k : κ) (b : Stage) : State κ := { s with stage := update s.stage k b }

theorem State.stage_to_self (s : State κ) (k : κ) (b : Stage) : (s.to k b).stage k = b :=
  Function.update_self ..

theorem State.stage_to_of_ne (s : State κ) {j k : κ} (h : j ≠ k) (b : Stage) :
    (s.to k b).stage j = s.stage j :=
  Function.update_of_ne h ..

theorem State.to_to (s : State κ) (k : κ) (a b : Stage) : (s.to k a).to k b = s.to k b :=
  congrArg (State.mk s.counter) (Function.update_idem ..)

theorem State.advance_to (s : State κ) (k : κ) (b : Stage) :
    (s.to k b).advance = s.advance.to k b := rfl

/-- One step of one call in a process. To take a number and to move the counter on is one step. -/
inductive Step (process : UInt32) (s : State κ) : State κ → Prop
  | readClock {k} (hk : s.stage k = .unborn) (millis : Int64) :
    Step process s (s.to k (.timed millis))
  | readProcess {k millis} (hk : s.stage k = .timed millis) :
    Step process s (s.to k (.placed millis process))
  | takeNumber {k millis own} (hk : s.stage k = .placed millis own) :
    Step process s (s.advance.to k (.numbered millis own s.counter.next))
  | finish {k millis own number} (hk : s.stage k = .numbered millis own number) :
    Step process s (s.to k (.returned (MessageId.ofWords millis own number).text))

/-- The states that the calls of a process come to. -/
inductive Reachable (process : UInt32) : State κ → Prop
  | start : Reachable process {}
  | step {s t : State κ} (h : Reachable process s) (step : Step process s t) : Reachable process t

/-! ### calls that nobody interrupts -/

variable {process : UInt32} {s : State κ} {k : κ}

/-- A call that nobody interrupts returns, whatever the others have left undone. -/
theorem Reachable.alone (h : Reachable process s) (hk : s.stage k = .unborn) (millis : Int64) :
    Reachable process
      (s.advance.to k (.returned (MessageId.ofWords millis process s.counter.next).text)) := by
  have hclock := h.step (.readClock hk millis)
  have hplaced := hclock.step (.readProcess (State.stage_to_self ..))
  have hnumbered := hplaced.step (.takeNumber (State.stage_to_self ..))
  have hreturned := hnumbered.step (.finish (State.stage_to_self ..))
  simp only [State.advance_to, State.to_to] at hreturned
  exact hreturned

end

/-- What calls return one after another at a moment are the stamps of a run. -/
theorem reachable_ofMoment (millis : Int) (process n : Nat) :
    ∃ s : State Nat, Reachable process.toUInt32 s ∧ s.counter = .after n ∧
      (∀ k < n, s.stage k = .returned (Stamp.ofMoment millis process k).id) ∧
      ∀ k, n ≤ k → s.stage k = .unborn := by
  induction n with
  | zero =>
    exact ⟨{}, .start, MessageCounter.after_zero.symm, fun _ h => absurd h (Nat.not_lt_zero _),
      fun _ _ => rfl⟩
  | succ n ih =>
    obtain ⟨s, hs, hcounter, hbefore, hafter⟩ := ih
    refine ⟨_, hs.alone (hafter n (Nat.le_refl n)) millis.toInt64, ?_, ?_, ?_⟩
    · show s.counter.advance = _
      rw [hcounter, MessageCounter.after_succ]
    · intro k hk
      rcases Nat.lt_succ_iff_lt_or_eq.mp hk with hlt | rfl
      · rw [State.stage_to_of_ne _ (Nat.ne_of_lt hlt)]
        exact hbefore k hlt
      · rw [State.stage_to_self, hcounter]
        rfl
    · intro k hk
      rw [State.stage_to_of_ne _ (Nat.ne_of_gt hk)]
      exact hafter k (Nat.le_of_succ_le hk)

/-! ### who has which number -/

/-- A call of a process that has no number yet. -/
inductive Stage.Early (process : UInt32) : Stage → Prop
  | unborn : Early process .unborn
  | timed (millis : Int64) : Early process (.timed millis)
  | placed (millis : Int64) : Early process (.placed millis process)

/-- A call of a process that has a number, or has written it down. -/
inductive Stage.Has (process : UInt32) (number : UInt64) : Stage → Prop
  | numbered (millis : Int64) : Has process number (.numbered millis process number)
  | returned (millis : Int64) :
    Has process number (.returned (MessageId.ofWords millis process number).text)

/-- The calls of a list have the numbers of the counter in their order, and the others have none. -/
structure Numbered {κ : Type} (process : UInt32) (order : List κ) (s : State κ) : Prop where
  nodup : order.Nodup
  counter : s.counter = .after order.length
  has {i : Nat} {k : κ} (hi : order[i]? = some k) :
    (s.stage k).Has process (MessageCounter.after i).next
  early {k : κ} (hk : k ∉ order) : (s.stage k).Early process

section
variable {κ : Type} {process : UInt32} {order : List κ} {s t : State κ} {k : κ} {b : Stage}

theorem Stage.Early.not_has {a : Stage} (h : a.Early process) (number : UInt64) :
    ¬ a.Has process number := by
  cases h <;> exact nofun

theorem Numbered.start : Numbered process [] ({} : State κ) where
  nodup := List.nodup_nil
  counter := MessageCounter.after_zero.symm
  has hi := nomatch hi
  early _ := .unborn

theorem Numbered.mem_iff (h : Numbered process order s) :
    k ∈ order ↔ ∃ number, (s.stage k).Has process number := by
  constructor
  · intro hk
    obtain ⟨i, hi⟩ := List.mem_iff_getElem?.mp hk
    exact ⟨_, h.has hi⟩
  · rintro ⟨number, hhas⟩
    by_contra hk
    exact (h.early hk).not_has number hhas

theorem Numbered.returned {id : String} (h : Numbered process order s)
    (hk : s.stage k = .returned id) :
    ∃ i millis, order[i]? = some k ∧
      id = (MessageId.ofWords millis process (MessageCounter.after i).next).text := by
  have hmem : k ∈ order := by
    by_contra hout
    have hearly : (Stage.returned id).Early process := hk ▸ h.early hout
    cases hearly
  obtain ⟨i, hi⟩ := List.mem_iff_getElem?.mp hmem
  have hhas : (Stage.returned id).Has process (MessageCounter.after i).next := hk ▸ h.has hi
  cases hhas with
  | returned millis => exact ⟨i, millis, hi, rfl⟩

/-- Until the counter has gone round, who comes at places with one number is one. -/
theorem eq_of_next {i j : Nat} {l : κ} (hfew : order.length ≤ 2 ^ 64) (hi : order[i]? = some k)
    (hj : order[j]? = some l)
    (hnext : (MessageCounter.after i).next = (MessageCounter.after j).next) : k = l := by
  obtain ⟨hi', _⟩ := List.getElem?_eq_some_iff.mp hi
  obtain ⟨hj', _⟩ := List.getElem?_eq_some_iff.mp hj
  have hij : i = j := (MessageCounter.next_after_eq_iff.mp hnext).eq_of_lt_of_lt
    (Nat.lt_of_lt_of_le hi' hfew) (Nat.lt_of_lt_of_le hj' hfew)
  rw [hij, hj] at hi
  exact (Option.some.inj hi).symm

variable [DecidableEq κ]

/-- A call goes on without taking a number. -/
theorem Numbered.to (h : Numbered process order s)
    (hearly : (s.stage k).Early process → b.Early process)
    (hhas : ∀ number, (s.stage k).Has process number → b.Has process number) :
    Numbered process order (s.to k b) where
  nodup := h.nodup
  counter := h.counter
  has {i j} hi := by
    by_cases hj : j = k
    · subst hj
      rw [State.stage_to_self]
      exact hhas _ (h.has hi)
    · rw [State.stage_to_of_ne s hj]
      exact h.has hi
  early {j} hj := by
    by_cases hjk : j = k
    · subst hjk
      rw [State.stage_to_self]
      exact hearly (h.early hj)
    · rw [State.stage_to_of_ne s hjk]
      exact h.early hj

/-- A call that takes the number of the counter comes last in the order. -/
theorem Numbered.take (h : Numbered process order s) (hk : k ∉ order)
    (hb : b.Has process s.counter.next) :
    Numbered process (order ++ [k]) (s.advance.to k b) where
  nodup := by
    rw [← List.concat_eq_append]
    exact h.nodup.concat hk
  counter := by
    show s.counter.advance = _
    rw [h.counter, ← MessageCounter.after_succ, List.length_append]
    rfl
  has {i j} hi := by
    rcases Nat.lt_or_ge i order.length with hlt | hge
    · rw [List.getElem?_append_left hlt] at hi
      have hj : j ≠ k := fun e => hk (e ▸ List.mem_of_getElem? hi)
      rw [State.stage_to_of_ne _ hj]
      exact h.has hi
    · rw [List.getElem?_append_right hge, List.getElem?_singleton] at hi
      split_ifs at hi with hlast
      cases hi
      have hi' : i = order.length := by omega
      rw [State.stage_to_self, hi', ← h.counter]
      exact hb
  early {j} hj := by
    rw [List.mem_append, List.mem_singleton, not_or] at hj
    rw [State.stage_to_of_ne _ hj.2]
    exact h.early hj.1

theorem Step.numbered (st : Step process s t) (h : Numbered process order s) :
    ∃ order', Numbered process order' t := by
  cases st with
  | readClock hk millis =>
    exact ⟨order, h.to (fun _ => .timed millis) (hk ▸ nofun)⟩
  | @readProcess k millis hk =>
    exact ⟨order, h.to (fun _ => .placed millis) (hk ▸ nofun)⟩
  | @takeNumber k millis own hk =>
    have hout : k ∉ order := by
      rw [h.mem_iff, hk]
      exact nofun
    have hearly : (Stage.placed millis own).Early process := hk ▸ h.early hout
    cases hearly
    exact ⟨order ++ [k], h.take hout (.numbered millis)⟩
  | @finish k millis own number hk =>
    refine ⟨order, h.to (hk ▸ nofun) fun number hhas => ?_⟩
    rw [hk] at hhas
    cases hhas
    exact .returned millis

theorem Reachable.numbered (h : Reachable process s) : ∃ order, Numbered process order s := by
  induction h with
  | start => exact ⟨[], .start⟩
  | step _ st ih =>
    obtain ⟨order, hs⟩ := ih
    exact st.numbered hs

theorem Numbered.length_le {calls : Finset κ} (h : Numbered process order s)
    (hall : ∀ k, s.stage k ≠ .unborn → k ∈ calls) : order.length ≤ calls.card := by
  rw [← List.toFinset_card_of_nodup h.nodup]
  refine Finset.card_le_card fun k hk => hall k fun hunborn => ?_
  obtain ⟨number, hhas⟩ := h.mem_iff.mp (List.mem_toFinset.mp hk)
  rw [hunborn] at hhas
  cases hhas

end

/-- **No two calls are given the same id.** The text of an id says when, in which process and with
which number it was made. So the ids that calls of a process return all differ until the counter has
gone round, whatever the order of their steps and whatever the clock says; and no call of another
process ever returns one of them. -/
theorem Reachable.ids_apart {κ μ : Type} [DecidableEq κ] [DecidableEq μ] {process process' : UInt32}
    {s : State κ} {t : State μ} (hs : Reachable process s) (ht : Reachable process' t) :
    (∀ (millis millis' : Int64) (own own' : UInt32) (number number' : UInt64),
      (MessageId.ofWords millis own number).text = (MessageId.ofWords millis' own' number').text →
        millis = millis' ∧ own = own' ∧ number = number') ∧
    (∀ calls : Finset κ, (∀ k, s.stage k ≠ .unborn → k ∈ calls) → calls.card ≤ 2 ^ 64 →
      ∀ j k id id', j ≠ k → s.stage j = .returned id → s.stage k = .returned id' → id ≠ id') ∧
    (process ≠ process' →
      ∀ j k id id', s.stage j = .returned id → t.stage k = .returned id' → id ≠ id') := by
  obtain ⟨order, hnumbered⟩ := hs.numbered
  obtain ⟨order', hnumbered'⟩ := ht.numbered
  refine ⟨fun _ _ _ _ _ _ => MessageId.text_ofWords_inj, ?_, ?_⟩
  · rintro calls hall hfew j k id _ hne hj hk rfl
    obtain ⟨i, millis, hi, hid⟩ := hnumbered.returned hj
    obtain ⟨i', millis', hi', hid'⟩ := hnumbered.returned hk
    obtain ⟨_, _, hnext⟩ := MessageId.text_ofWords_inj (hid.symm.trans hid')
    exact hne (eq_of_next ((hnumbered.length_le hall).trans hfew) hi hi' hnext)
  · rintro hne j k id _ hj hk rfl
    obtain ⟨_, _, _, hid⟩ := hnumbered.returned hj
    obtain ⟨_, _, _, hid'⟩ := hnumbered'.returned hk
    obtain ⟨_, hprocess, _⟩ := MessageId.text_ofWords_inj (hid.symm.trans hid')
    exact hne hprocess

/-- In one process the first call reads the clock, which then goes back, and is overtaken by the
second one; in another process a call reads what the second one has read. -/
theorem ids_apart_overtaken : ∃ s t : State Nat, Reachable 7 s ∧ Reachable 8 t ∧
    s.stage 0 = .returned "msg-3-7-2" ∧ s.stage 1 = .returned "msg--5-7-1" ∧
    t.stage 0 = .returned "msg--5-8-1" ∧
    "msg-3-7-2" ≠ "msg--5-7-1" ∧ "msg--5-7-1" ≠ "msg--5-8-1" := by
  have hs : Reachable 7 ({} : State Nat) := .start
  have hs := hs.step (.readClock (k := 0) rfl 3)
  have hs := hs.step (.readProcess (k := 0) rfl)
  have hs := hs.alone (k := 1) rfl (-5)
  have hs := hs.step (.takeNumber (k := 0) rfl)
  have hs := hs.step (.finish (k := 0) rfl)
  have ht : Reachable 8 ({} : State Nat) := .start
  have ht := ht.alone (k := 0) rfl (-5)
  obtain ⟨_, hwithin, hbetween⟩ := hs.ids_apart ht
  refine ⟨_, _, hs, ht, rfl, rfl, rfl, ?_, ?_⟩
  · refine hwithin {0, 1} (fun k hk => ?_) (by decide) 0 1 _ _ (by decide) rfl rfl
    by_contra hout
    rw [Finset.mem_insert, Finset.mem_singleton, not_or] at hout
    simp only [State.advance_to, State.stage_to_of_ne _ hout.1, State.stage_to_of_ne _ hout.2] at hk
    exact hk rfl
  · exact hbetween (by decide) 1 0 _ _ rfl rfl

end Numbering

end TelemetryGate
