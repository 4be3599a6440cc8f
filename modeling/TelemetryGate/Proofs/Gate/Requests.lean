import TelemetryGate.Proofs.Gate.Checks

/-!
# What the gate has against a request

* `TrackRequest.fault?`     the first thing that is wrong with a request, whatever the manager does;
* `Gate.submit_of_*`        what a request comes to by that;
* `readRequest_unique`      what a body says does not depend on the cap.
-/

namespace TelemetryGate

/-- What is wrong with a request. -/
def TrackRequest.fault? (r : TrackRequest) : Option Rejection :=
  if !Registry.isClientEvent r.event then some .unknownEvent
  else if !Registry.isClientType r.clientType then some .unknownClientType
  else none

namespace TrackRequest

variable {r : TrackRequest}

theorem fault?_of_unknownEvent (he : r.event ∉ Registry.clientEvents) :
    r.fault? = some .unknownEvent := by
  unfold fault? Registry.isClientEvent
  rw [List.contains_eq_mem, decide_eq_false he]
  rfl

theorem fault?_of_unknownClientType (he : r.event ∈ Registry.clientEvents)
    (hc : r.clientType ∉ Registry.clientTypes) : r.fault? = some .unknownClientType := by
  unfold fault? Registry.isClientEvent Registry.isClientType
  rw [List.contains_eq_mem, decide_eq_true he, List.contains_eq_mem, decide_eq_false hc]
  rfl

theorem fault?_of_known (he : r.event ∈ Registry.clientEvents)
    (hc : r.clientType ∈ Registry.clientTypes) : r.fault? = none := by
  unfold fault? Registry.isClientEvent Registry.isClientType
  rw [List.contains_eq_mem, decide_eq_true he, List.contains_eq_mem, decide_eq_true hc]
  rfl

theorem fault?_eq_none_iff :
    r.fault? = none ↔ r.event ∈ Registry.clientEvents ∧ r.clientType ∈ Registry.clientTypes := by
  constructor
  · intro h
    by_cases he : r.event ∈ Registry.clientEvents
    · by_cases hc : r.clientType ∈ Registry.clientTypes
      · exact ⟨he, hc⟩
      · rw [fault?_of_unknownClientType he hc] at h
        cases h
    · rw [fault?_of_unknownEvent he] at h
      cases h
  · rintro ⟨he, hc⟩
    exact fault?_of_known he hc

/-- Nothing that is wrong with a request has to do with the manager or with a body. -/
theorem fault?_ne {reason : Rejection} (h : r.fault? = some reason) :
    reason ≠ .disabled ∧ ∀ f, reason ≠ .malformed f := by
  by_cases he : r.event ∈ Registry.clientEvents
  · by_cases hc : r.clientType ∈ Registry.clientTypes
    · rw [fault?_of_known he hc] at h
      cases h
    · rw [fault?_of_unknownClientType he hc] at h
      cases h
      exact ⟨(fun e => nomatch e), (fun f e => nomatch e)⟩
  · rw [fault?_of_unknownEvent he] at h
    cases h
    exact ⟨(fun e => nomatch e), (fun f e => nomatch e)⟩

end TrackRequest

namespace Gate

variable {g : Gate} {client : LiveClient} {r : TrackRequest}

theorem submit_of_off (h : g.manager.live = none) (actor : String) (o : Outcomes) :
    g.submit r actor o = { answer := .error .disabled, state := g } := by
  rw [submit, Manager.isEnabled, h]
  rfl

theorem submit_of_fault {reason : Rejection} (h : g.manager.live = some client)
    (hf : r.fault? = some reason) (actor : String) (o : Outcomes) :
    g.submit r actor o = { answer := .error reason, state := g } := by
  by_cases he : r.event ∈ Registry.clientEvents
  · by_cases hc : r.clientType ∈ Registry.clientTypes
    · rw [TrackRequest.fault?_of_known he hc] at hf
      cases hf
    · rw [TrackRequest.fault?_of_unknownClientType he hc] at hf
      cases hf
      exact submit_of_unknownClientType h he hc actor o
  · rw [TrackRequest.fault?_of_unknownEvent he] at hf
    cases hf
    exact submit_of_unknownEvent h he actor o

theorem submit_of_clear (h : g.manager.live = some client) (hf : r.fault? = none)
    (actor : String) (o : Outcomes) :
    (g.submit r actor o).answer = .ok r.event ∧ (g.submit r actor o).state = g ∧
      (g.submit r actor o).calls =
        [.track client.number r.event (Submission.ofRequest r actor).forwarded o.track] := by
  obtain ⟨he, hc⟩ := TrackRequest.fault?_eq_none_iff.mp hf
  exact submit_of_known h he hc actor o

/-! ### what a body says -/

variable {body : Body} {bytes : List UInt8} {cap cap' : Nat}

/-- The request at the front of some bytes, if there is one. -/
def said (bytes : List UInt8) : Option TrackRequest :=
  match TrackRequest.reader bytes with
  | .ok r => some r.value
  | .error _ => none

/-- A request that was read stands in front of the bytes that were taken, of which there are not too
many. -/
theorem readRequest_ok (h : readRequest cap body = .ok r) :
    (body.take (wanted cap)).failure = none ∧
      (body.take (wanted cap)).bytes.length ≤ cap ∧
      said (body.take (wanted cap)).bytes = some r := by
  unfold readRequest reading requestIn at h
  generalize body.take (wanted cap) = taken at h ⊢
  obtain ⟨bytes, failure⟩ := taken
  cases failure with
  | some reason => cases h
  | none =>
    dsimp only at h ⊢
    by_cases hlen : cap < bytes.length
    · rw [if_pos hlen] at h
      cases h
    · rw [if_neg hlen] at h
      by_cases hb : (Json.skipBlanks bytes).isEmpty
      · rw [if_pos hb] at h
        cases h
      · rw [if_neg hb] at h
        refine ⟨rfl, Nat.not_lt.mp hlen, ?_⟩
        unfold said
        cases hr : TrackRequest.reader bytes with
        | error f => rw [hr] at h; cases h
        | ok read => rw [hr] at h; cases h; rfl

/-- The bytes taken under one cap are all there are, or as many as under any greater one. -/
theorem take_of_le (hfail : (body.take (wanted cap)).failure = none)
    (hlen : (body.take (wanted cap)).bytes.length ≤ cap) (hle : cap ≤ cap') :
    body.take (wanted cap') = body.take (wanted cap) := by
  unfold wanted at hfail hlen ⊢
  by_cases hmost : Word.most ≤ cap + 1
  · rw [Nat.min_eq_right hmost, Nat.min_eq_right (by omega)]
  · have hwant : min (cap + 1) Word.most = cap + 1 := by omega
    rw [hwant] at hfail hlen ⊢
    have hholds := Body.holds_of_take hfail (by omega)
    rw [hholds.take_eq, List.take_of_length_le (by omega)]
    exact congrArg (Taken.mk _) hfail.symm

/-- **A body says one thing at most, whatever the cap.** -/
theorem readRequest_unique {r' : TrackRequest} (h : readRequest cap body = .ok r)
    (h' : readRequest cap' body = .ok r') : r = r' := by
  obtain ⟨hfail, hlen, hsaid⟩ := readRequest_ok h
  obtain ⟨hfail', hlen', hsaid'⟩ := readRequest_ok h'
  rcases Nat.le_total cap cap' with hle | hle
  · rw [take_of_le hfail hlen hle, hsaid] at hsaid'
    exact Option.some.inj hsaid'
  · rw [take_of_le hfail' hlen' hle, hsaid'] at hsaid
    exact (Option.some.inj hsaid).symm

theorem readRequest_tooLarge_iff (h : body.Holds bytes)
    (hfit : bytes.length ≤ Word.most ∨ cap < Word.most) :
    readRequest cap body = .error .tooLarge ↔ cap < bytes.length := by
  constructor
  · intro hlong
    refine Decidable.byContradiction fun hlen => ?_
    have hshort : bytes.length ≤ cap := Nat.not_lt.mp hlen
    by_cases hb : ∀ b ∈ bytes, Json.isBlank b = true
    · rw [readRequest_of_blank h hfit hshort hb] at hlong
      cases hlong
    · cases hr : TrackRequest.reader bytes with
      | error f =>
        rw [readRequest_of_fault h hfit hshort hb hr] at hlong
        cases hlong
      | ok read =>
        rw [readRequest_of_ok h hfit hshort hb hr] at hlong
        cases hlong
  · exact readRequest_of_long h hfit

end Gate

end TelemetryGate
