import TelemetryGate.Proofs.Gate.Checks

/-!
# The first failing check decides

* `Objection`            what may be said against a submission, by the check that says it;
* `Objection.Stands`     when it is so, whatever the other checks say;
* `Objection.Clear`      the checks up to one do not fail;
* `Objection.First`      it is so, and no earlier check fails;
* `Verdict`              the answer is the first objection, or success if there is none;
* `ingest_cases`         a body comes to its first objection, or its request is submitted;
* `handle_verdict`       the gate answers by the first objection.
-/

namespace TelemetryGate.Gate

/-! ### objections -/

/-- What may be said against a submission. -/
inductive Objection where
  | disabled
  | tooLong
  | blank
  | undecodable (f : Json.Fault)
  | unknownEvent
  | unknownClientType

namespace Objection

def rank : Objection → Nat
  | disabled => 0
  | tooLong => 1
  | blank => 2
  | undecodable _ => 3
  | unknownEvent => 4
  | unknownClientType => 5

/-- The words for it, of a body of some bytes. -/
def message (bytes : List UInt8) : Objection → String
  | disabled => "telemetry is disabled"
  | tooLong => "http: request body too large"
  | blank => "EOF"
  | undecodable f => f.message bytes
  | unknownEvent => "invalid telemetry event"
  | unknownClientType => "invalid client type"

/-- It is so of a gate and the bytes of a body. -/
def Stands (g : Gate) (bytes : List UInt8) : Objection → Prop
  | disabled => g.manager.live = none
  | tooLong => g.cap < bytes.length
  | blank => ∀ b ∈ bytes, Json.isBlank b = true
  | undecodable f => TrackRequest.reader bytes = .error f
  | unknownEvent =>
    ∃ r, TrackRequest.reader bytes = .ok r ∧ r.value.event ∉ Registry.clientEvents
  | unknownClientType =>
    ∃ r, TrackRequest.reader bytes = .ok r ∧ r.value.clientType ∉ Registry.clientTypes

/-- None of the first `n` checks fails. -/
def Clear (g : Gate) (bytes : List UInt8) (n : Nat) : Prop :=
  ∀ y : Objection, y.Stands g bytes → n ≤ y.rank

/-- It is so, and it is the first one that is. -/
def First (g : Gate) (bytes : List UInt8) (x : Objection) : Prop :=
  x.Stands g bytes ∧ Clear g bytes x.rank

variable {g : Gate} {bytes : List UInt8} {x y : Objection}

theorem clear_zero : Clear g bytes 0 := fun y _ => Nat.zero_le y.rank

theorem Clear.succ {n : Nat} (h : Clear g bytes n)
    (hn : ∀ y : Objection, y.rank = n → ¬ y.Stands g bytes) : Clear g bytes (n + 1) :=
  fun y hy => Nat.lt_of_le_of_ne (h y hy) fun e => hn y e.symm hy

theorem Clear.not_stands (h : Clear g bytes 6) (x : Objection) : ¬ x.Stands g bytes := by
  intro hx
  have hr : 6 ≤ x.rank := h x hx
  cases x <;> exact absurd hr (Nat.not_le_of_lt (Nat.le_of_ble_eq_true rfl))

/-- One check says one thing. -/
theorem Stands.eq_of_rank (hx : x.Stands g bytes) (hy : y.Stands g bytes)
    (h : x.rank = y.rank) : x = y := by
  cases x with
  | undecodable f =>
    cases y with
    | undecodable f' =>
      have hf : TrackRequest.reader bytes = .error f := hx
      rw [show TrackRequest.reader bytes = .error f' from hy] at hf
      rw [Except.error.inj hf]
    | _ => simp [rank] at h
  | _ => cases y <;> first | rfl | simp [rank] at h

theorem First.unique (hx : First g bytes x) (hy : First g bytes y) : x = y :=
  hx.1.eq_of_rank hy.1 (Nat.le_antisymm (hx.2 y hy.1) (hy.2 x hx.1))

end Objection

/-! ### the verdict -/

/-- What is answered to a submission and what comes of it: the first objection is the reason of the
refusal, and without one the submission passes. -/
structure Verdict (g : Gate) (bytes : List UInt8) (d : Done Gate Response) : Prop where
  answered : d.answer.code = 200 ∨ d.answer.code = 400
  refused : ∀ reason, d.answer = { code := 400, err := some reason } ↔
    ∃ x, Objection.First g bytes x ∧ x.message bytes = reason
  accepted : d.answer = { code := 200, msg := some "success" } ↔
    ∀ x : Objection, ¬ x.Stands g bytes
  /-- the manager and the cap stay as they are -/
  unchanged : d.state = g
  /-- no client hears of a submission that does not pass -/
  silent : d.answer.code = 400 → d.calls = []

variable {g : Gate} {bytes : List UInt8} {d : Done Gate Response}

theorem Verdict.of_first {x : Objection} (hx : x.First g bytes)
    (ha : d.answer = .refusal (x.message bytes)) (hs : d.state = g) (hc : d.calls = []) :
    Verdict g bytes d where
  answered := .inr (by rw [ha]; rfl)
  refused reason := by
    rw [ha]
    constructor
    · intro h
      have hr : some (x.message bytes) = some reason := congrArg Response.err h
      exact ⟨x, hx, Option.some.inj hr⟩
    · rintro ⟨y, hy, rfl⟩
      rw [hx.unique hy]
      rfl
  accepted := by
    rw [ha]
    refine iff_of_false (fun h => ?_) fun h => h x hx.1
    exact absurd (congrArg Response.code h) (show ¬ (400 : Nat) = 200 by decide)
  unchanged := hs
  silent _ := hc

theorem Verdict.of_none (hx : ∀ x : Objection, ¬ x.Stands g bytes) (ha : d.answer = .success)
    (hs : d.state = g) : Verdict g bytes d where
  answered := .inl (by rw [ha]; rfl)
  refused reason := by
    rw [ha]
    refine iff_of_false (fun h => ?_) fun ⟨y, hy, _⟩ => hx y hy.1
    exact absurd (congrArg Response.code h) (show ¬ (200 : Nat) = 400 by decide)
  accepted := by
    rw [ha]
    exact iff_of_true rfl hx
  unchanged := hs
  silent h := by
    rw [ha] at h
    exact absurd h (show ¬ (200 : Nat) = 400 by decide)

variable {body : Body} {actor : String} {o : Outcomes}

/-- A body comes to its first objection, or its request is submitted and there is none. -/
theorem ingest_cases (h : body.Holds bytes)
    (hfit : bytes.length ≤ Word.most ∨ g.cap < Word.most) (actor : String) (o : Outcomes) :
    (∃ x : Objection, ∃ reason : Rejection, x.First g bytes ∧ reason.message = x.message bytes ∧
      g.ingest body actor o = { answer := .error reason, state := g }) ∨
    ∃ client r, g.manager.live = some client ∧ TrackRequest.reader bytes = .ok r ∧
      r.value.event ∈ Registry.clientEvents ∧ r.value.clientType ∈ Registry.clientTypes ∧
      g.ingest body actor o = g.submit r.value actor o ∧
      ∀ x : Objection, ¬ x.Stands g bytes := by
  have c₀ : Objection.Clear g bytes 0 := Objection.clear_zero
  cases hl : g.manager.live with
  | none => exact .inl ⟨.disabled, _, ⟨hl, c₀⟩, rfl, ingest_of_off hl actor o⟩
  | some client =>
    have c₁ := c₀.succ fun
      | .disabled, _, hs => nomatch hl.symm.trans hs
    by_cases hlong : g.cap < bytes.length
    · have hread := readRequest_of_long h hfit hlong
      exact .inl ⟨.tooLong, _, ⟨hlong, c₁⟩, rfl, ingest_of_fault hl hread actor o⟩
    have hshort : bytes.length ≤ g.cap := Nat.not_lt.mp hlong
    have c₂ := c₁.succ fun
      | .tooLong, _, hs => hlong hs
    by_cases hblank : ∀ b ∈ bytes, Json.isBlank b = true
    · have hread := readRequest_of_blank h hfit hshort hblank
      exact .inl ⟨.blank, _, ⟨hblank, c₂⟩, rfl, ingest_of_fault hl hread actor o⟩
    have c₃ := c₂.succ fun
      | .blank, _, hs => hblank hs
    cases hr : TrackRequest.reader bytes with
    | error f =>
      have hread := readRequest_of_fault h hfit hshort hblank hr
      exact .inl ⟨.undecodable f, _, ⟨hr, c₃⟩, rfl, ingest_of_fault hl hread actor o⟩
    | ok r =>
      have hread := readRequest_of_ok h hfit hshort hblank hr
      have hsubmit := ingest_of_request hl hread actor o
      have c₄ := c₃.succ fun
        | .undecodable f, _, hs => nomatch hr.symm.trans hs
      by_cases he : r.value.event ∈ Registry.clientEvents
      · have c₅ := c₄.succ fun
          | .unknownEvent, _, ⟨r', hr', he'⟩ => by
            cases hr.symm.trans hr'
            exact he' he
        by_cases hc : r.value.clientType ∈ Registry.clientTypes
        · have c₆ := c₅.succ fun
            | .unknownClientType, _, ⟨r', hr', hc'⟩ => by
              cases hr.symm.trans hr'
              exact hc' hc
          exact .inr ⟨client, r, rfl, rfl, he, hc, hsubmit, c₆.not_stands⟩
        · exact .inl ⟨.unknownClientType, _, ⟨⟨r, hr, hc⟩, c₅⟩, rfl,
            hsubmit.trans (submit_of_unknownClientType hl he hc actor o)⟩
      · exact .inl ⟨.unknownEvent, _, ⟨⟨r, hr, he⟩, c₄⟩, rfl,
          hsubmit.trans (submit_of_unknownEvent hl he actor o)⟩

/-- **Whatever the bytes of a body, the first check that fails decides, and no other.** Where the
cap is all that 64 bits count, the body is no longer, as nothing in memory is. -/
theorem handle_verdict (h : body.Holds bytes)
    (hfit : bytes.length ≤ Word.most ∨ g.cap < Word.most) (actor : String) (o : Outcomes) :
    Verdict g bytes (g.handle body actor o) := by
  rcases ingest_cases h hfit actor o with
    ⟨x, reason, hx, hm, hi⟩ | ⟨client, r, hl, _, he, hc, hi, hx⟩
  · refine .of_first hx ?_ ?_ ?_
    · rw [handle_answer, hi, ← hm]
      rfl
    · rw [handle_state, hi]
    · rw [handle_calls, hi]
  · obtain ⟨ha, hs, _⟩ := submit_of_known hl he hc actor o
    refine .of_none hx ?_ ?_
    · rw [handle_answer, hi, ha]
      rfl
    · rw [handle_state, hi, hs]

def liveGate (cap : Nat) : Gate := { manager := ⟨some ⟨1, {}⟩, 1⟩, cap }

/-- A request in the order of its slots. -/
def raiseHand : List UInt8 := "[\"user_raise_hand\",\"web\"]".toUTF8.toList

/-- A body of as many bytes as the cap passes, also when the client then fails. -/
theorem verdict_raiseHand :
    raiseHand.length = 25 ∧
    ((liveGate 25).handle (.whole raiseHand) "u1" ⟨fun _ => none, some .queueFull, none⟩).answer =
      .success ∧
    Verdict (liveGate 25) raiseHand
      ((liveGate 25).handle (.whole raiseHand) "u1" ⟨fun _ => none, some .queueFull, none⟩) :=
  ⟨by decide +kernel, by decide +kernel,
    handle_verdict (Body.holds_whole raiseHand) (.inr (by decide)) "u1" _⟩

end TelemetryGate.Gate
