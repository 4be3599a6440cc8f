import TelemetryGate.Proofs.Callers.Program

/-!
# One caller by itself

What is known of a caller from its stage alone, without the locks and the other callers.

* `Stage.Serves`    a stage that belongs to the errand;
* `Stage.promise`   what will be answered and which clients' calls are still to come, from the step
                    on where the outcome is settled;
* `Stage.made`      the clients' calls made before that;
* `Stage.Path.*`    what the acts so far have to do with the stage.
-/

namespace TelemetryGate.Callers

variable {c : Call} {a b : Stage} {act : Act} {acts : List Act}

/-! ### the errand -/

/-- The stage is one of the errand that the call comes to. -/
def Stage.Serves (c : Call) : Stage → Prop
  | onStart config | onEnter config | onLook config | onLooked config _ | onAbsent config
  | onCreate config => c.request.errand = .on config
  | onCreated client | onSwap client | onSwapped client =>
    c.request.errand = .on client.config ∧ c.outcomes.create client.config = none
  | offStart | offEnter | offSwap | offSwapped _ | offHeld _ | offClose _ =>
    c.request.errand = .off
  | unlocking _ => c.request.errand.switches = true
  | readStart q | readLook q => c.request.errand = .ask q
  | trackHeld _ event props | trackRun _ event props =>
    c.request.errand = .ask (.track event props)
  | readDone _ => c.request.errand.switches = false
  | _ => True

theorem Stage.serves_start : (c.request.errand.start).Serves c := by
  cases h : c.request.errand <;> exact h

theorem Stage.serves_seen {q : Question} (h : c.request.errand = .ask q)
    (found : Option LiveClient) : (q.seen found).Serves c := by
  have hs : c.request.errand.switches = false := by rw [h]; rfl
  cases q with
  | track event props =>
    cases found with
    | none => exact hs
    | some client => exact h
  | isEnabled => exact hs
  | status => exact hs

theorem Stage.Next.serves (h : Stage.Next c a act b) (ha : a.Serves c) : b.Serves c := by
  cases h with
  | begin => exact Stage.serves_start
  | onFound => exact congrArg Errand.switches ha
  | onRefused _ => exact congrArg Errand.switches ha
  | onCreated hc => exact ⟨ha, hc⟩
  | onDone => exact congrArg Errand.switches ha.1
  | offNothing => exact congrArg Errand.switches ha
  | offClosed => exact congrArg Errand.switches ha
  | look => exact Stage.serves_seen ha _
  | tracked => exact congrArg Errand.switches ha
  | unlock => trivial
  | readDone => trivial
  | finish => trivial
  | _ => exact ha

theorem Stage.Path.serves (h : Stage.Path c acts a) : a.Serves c := by
  induction h with
  | start => trivial
  | step _ next ih => exact next.serves ih

/-! ### its beginning and its end -/

theorem Stage.Path.begin_mem (h : Stage.Path c acts a) (ha : a ≠ .unborn) : .begin ∈ acts := by
  induction h with
  | start => exact absurd rfl ha
  | @step acts a act b path next ih =>
    rw [List.mem_append]
    by_cases e : a = .unborn
    · subst e
      cases next
      exact .inr (List.mem_singleton_self _)
    · exact .inl (ih e)

theorem Stage.Next.ne_unborn (h : Stage.Next c a act b) : b ≠ .unborn := by
  cases h with
  | begin => cases c.request.errand <;> simp [Errand.start]
  | @look q found => cases q <;> cases found <;> simp [Question.seen]
  | _ => simp

theorem Stage.Path.ne_unborn (h : Stage.Path c acts a) (hb : .begin ∈ acts) : a ≠ .unborn := by
  cases h with
  | start => cases hb
  | step _ next => exact next.ne_unborn

/-- Whoever has returned stays where it is. -/
theorem Stage.Path.returned_of_finish (h : Stage.Path c acts a) {answer : Answer}
    (hf : .finish answer ∈ acts) : a = .returned answer := by
  induction h with
  | start => cases hf
  | @step acts a act b path next ih =>
    rcases List.mem_append.mp hf with h | h
    · rw [ih h] at next
      cases next
    · rw [← List.mem_singleton.mp h] at next
      cases next
      rfl

/-! ### what it makes clients do -/

/-- What will be answered, and the clients' calls still to come, once that is settled. -/
def Stage.promise (c : Call) : Stage → Option (Answer × List ClientCall)
  | onLooked _ (some _) => some (.switched (.ok ()), [])
  | onSwapped _ => some (.switched (.ok ()), [])
  | offSwapped none => some (.switched (.ok ()), [])
  | offSwapped (some client) | offHeld client | offClose client =>
    some (closeAnswer c.outcomes.close, [.close client.number c.outcomes.close])
  | trackHeld client event props | trackRun client event props =>
    some (.tracked, [.track client.number event props c.outcomes.track])
  | unlocking answer | readDone answer | leaving answer | returned answer => some (answer, [])
  | _ => none

/-- The clients' calls that a caller has made before its outcome is settled. -/
def Stage.made : Stage → List ClientCall
  | onCreated client | onSwap client => [.create client.number client.config]
  | _ => []

theorem Stage.promise_start : (c.request.errand.start).promise c = none := by
  cases c.request.errand <;> rfl

theorem Stage.made_start : (c.request.errand.start).made = [] := by
  cases c.request.errand <;> rfl

/-- A promise is kept: what is still to come is what the act makes and what comes after it. -/
theorem Stage.Next.promise_kept (h : Stage.Next c a act b) {answer : Answer}
    {todo : List ClientCall} (ha : a.promise c = some (answer, todo)) :
    ∃ rest, b.promise c = some (answer, rest) ∧ todo = act.made ++ rest := by
  cases h <;> cases ha <;> exact ⟨_, rfl, rfl⟩

/-- Before the outcome is settled, what was made is what the stage says. -/
theorem Stage.Next.made_eq (h : Stage.Next c a act b) (ha : a.promise c = none)
    (hb : b.promise c = none) : b.made = a.made ++ act.made := by
  cases h with
  | begin => rw [Stage.made_start]; rfl
  | @look q found => cases q <;> cases found <;> rfl
  | onPut => cases hb
  | offClosed => cases ha
  | tracked => cases ha
  | _ => rfl

theorem Stage.Next.promise_none (h : Stage.Next c a act b) (hb : b.promise c = none) :
    a.promise c = none := by
  cases ha : a.promise c with
  | none => rfl
  | some p =>
    obtain ⟨rest, hr, _⟩ := h.promise_kept (show a.promise c = some (p.1, p.2) from ha)
    rw [hr] at hb
    cases hb

theorem Stage.Path.made_eq (h : Stage.Path c acts a) (ha : a.promise c = none) :
    acts.flatMap Act.made = a.made := by
  induction h with
  | start => rfl
  | @step acts a act b path next ih =>
    have hp := next.promise_none ha
    rw [next.made_eq hp ha, List.flatMap_append, ih hp, List.flatMap_singleton]

/-- A track that has begun is under way or has ended. -/
theorem Stage.Path.track_of_start (h : Stage.Path c acts a) {n : Nat} {event : String}
    {props : Properties} (hs : .startTrack n event props ∈ acts) :
    (∃ client, a = .trackRun client event props ∧ client.number = n) ∨
      ∃ failure, .endTrack n event props failure ∈ acts := by
  induction h with
  | start => cases hs
  | @step acts a act b path next ih =>
    rcases List.mem_append.mp hs with h | h
    · rcases ih h with ⟨client, rfl, rfl⟩ | ⟨failure, hf⟩
      · cases next
        exact .inr ⟨_, List.mem_append_right _ (List.mem_singleton_self _)⟩
      · exact .inr ⟨failure, List.mem_append_left _ hf⟩
    · rw [← List.mem_singleton.mp h] at next
      cases next
      exact .inl ⟨_, rfl, rfl⟩

/-- So a track that has begun is a call of a client that is made or still to come. -/
theorem Stage.Path.track_promised (h : Stage.Path c acts a) {n : Nat} {event : String}
    {props : Properties} (hs : .startTrack n event props ∈ acts) :
    ∃ answer rest failure, a.promise c = some (answer, rest) ∧
      .track n event props failure ∈ acts.flatMap Act.made ++ rest := by
  rcases h.track_of_start hs with ⟨client, rfl, rfl⟩ | ⟨failure, hf⟩
  · exact ⟨_, _, _, rfl, List.mem_append_right _ (List.mem_singleton_self _)⟩
  · have hm : ClientCall.track n event props failure ∈ acts.flatMap Act.made :=
      List.mem_flatMap.mpr ⟨_, hf, List.mem_singleton_self _⟩
    cases hp : a.promise c with
    | some p => exact ⟨p.1, p.2, failure, rfl, List.mem_append_left _ hm⟩
    | none =>
      rw [h.made_eq hp] at hm
      cases a <;> simp [Stage.made] at hm

end TelemetryGate.Callers
