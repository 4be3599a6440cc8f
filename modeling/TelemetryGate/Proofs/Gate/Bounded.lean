import TelemetryGate.Proofs.Gate.Verdict

/-!
# The bytes that a gate takes of a body

A body comes in any pieces; it may end, fail on the way or go on for ever. The gate takes one byte
more than its cap at most, and what stands behind them makes no difference.

* `Body.Brings`           the bytes of the first pieces, with no end and no failure among them;
* `Body.Fails`, `Body.Endless`   the bytes before a failure, and bytes without end;
* `Body.holds_or_fails_or_endless`   there is no other body;
* `Gate.Bounded`          what is taken of a body, and that nothing else of it matters;
* `Gate.ingest_bounded`   so it is with every gate.
-/

namespace TelemetryGate

/-! ### bodies that do not end -/

namespace Body

/-- The bytes of the first `n` pieces, with no end and no failure among them. -/
inductive Brings (body : Body) : List UInt8 → Nat → Prop
  | start : Brings body [] 0
  | more {bytes : List UInt8} {n : Nat} {b : UInt8} {bs : List UInt8} (h : Brings body bytes n)
    (next : body n = .bytes (b :: bs)) : Brings body (bytes ++ b :: bs) (n + 1)

/-- The bytes before reading fails, and why it does. -/
def Fails (body : Body) (bytes : List UInt8) (reason : String) : Prop :=
  ∃ n, body.Brings bytes n ∧ body n = .failed reason

/-- Whatever was read, there is more. -/
def Endless (body : Body) : Prop := ∀ size, ∃ bytes n, size ≤ bytes.length ∧ body.Brings bytes n

variable {body : Body} {bytes rest : List UInt8} {n want : Nat}

theorem Brings.holds (h : body.Brings bytes n) (hrest : HoldsFrom body n rest) :
    body.Holds (bytes ++ rest) := by
  induction h generalizing rest with
  | start => exact hrest
  | @more bytes n b bs _ next ih =>
    rw [List.append_assoc]
    exact ih (.more next hrest)

/-- A body ends, fails or goes on for ever. -/
theorem holds_or_fails_or_endless (body : Body) :
    (∃ bytes, body.Holds bytes) ∨ (∃ bytes reason, body.Fails bytes reason) ∨ body.Endless := by
  by_cases hholds : ∃ bytes, body.Holds bytes
  · exact .inl hholds
  by_cases hfails : ∃ bytes reason, body.Fails bytes reason
  · exact .inr (.inl hfails)
  -- where nothing stops the reading, each piece brings at least one byte more
  refine .inr (.inr fun size => ?_)
  induction size with
  | zero => exact ⟨[], 0, Nat.le_refl 0, .start⟩
  | succ size ih =>
    obtain ⟨bytes, n, hsize, hbrings⟩ := ih
    cases hnext : body n with
    | failed reason => exact absurd ⟨bytes, reason, n, hbrings, hnext⟩ hfails
    | bytes piece =>
      cases piece with
      | nil => exact absurd ⟨_, hbrings.holds (.done hnext)⟩ hholds
      | cons b bs =>
        refine ⟨bytes ++ b :: bs, n + 1, ?_, .more hbrings hnext⟩
        rw [List.length_append, List.length_cons]
        omega

/-! ### taking -/

theorem takeFrom_zero (body : Body) (i : Nat) (acc : List UInt8) :
    takeFrom body i 0 acc = ⟨acc.reverse, none⟩ := by
  rw [takeFrom]
  exact if_pos rfl

/-- Once the first pieces are taken and more is wanted, taking goes on behind them. -/
theorem Brings.take_of_lt (h : body.Brings bytes n) (hwant : bytes.length < want) :
    body.take want = takeFrom body n (want - bytes.length) bytes.reverse := by
  induction h with
  | start => rfl
  | @more bytes n b bs _ next ih =>
    rw [List.length_append, List.length_cons] at hwant
    rw [ih (by omega), takeFrom, if_neg (by omega), next]
    show takeFrom body (n + 1) (want - bytes.length - (bs.length + 1))
      (((b :: bs).take (want - bytes.length)).reverseAux bytes.reverse) = _
    rw [List.take_of_length_le (by rw [List.length_cons]; omega), List.reverseAux_eq,
      List.length_append, List.length_cons, List.reverse_append, Nat.sub_sub]

/-- If the first pieces are enough, no other piece is taken. -/
theorem Brings.take_of_le (h : body.Brings bytes n) (hwant : want ≤ bytes.length) :
    body.take want = ⟨bytes.take want, none⟩ := by
  induction h with
  | start =>
    rw [List.length_nil, Nat.le_zero] at hwant
    rw [hwant]
    exact takeFrom_zero body 0 []
  | @more bytes n b bs hbrings next ih =>
    by_cases hle : want ≤ bytes.length
    · rw [ih hle, List.take_append_of_le_length hle]
    · -- the last piece is needed, though perhaps not all of it
      have hlt : bytes.length < want := Nat.not_le.mp hle
      rw [List.length_append, List.length_cons] at hwant
      rw [hbrings.take_of_lt hlt, takeFrom, if_neg (by omega), next]
      show takeFrom body (n + 1) (want - bytes.length - (bs.length + 1)) _ = _
      rw [show want - bytes.length - (bs.length + 1) = 0 by omega, takeFrom_zero,
        List.reverseAux_eq, List.reverse_append, List.reverse_reverse, List.reverse_reverse,
        List.take_append, List.take_of_length_le (Nat.le_of_lt hlt)]

theorem Fails.take_eq {reason : String} (h : body.Fails bytes reason)
    (hwant : bytes.length < want) : body.take want = ⟨bytes, some reason⟩ := by
  obtain ⟨n, hbrings, hfailed⟩ := h
  rw [hbrings.take_of_lt hwant, takeFrom, if_neg (by omega), hfailed]
  show Taken.mk bytes.reverse.reverse _ = _
  rw [List.reverse_reverse]

theorem takeFrom_length_le (body : Body) (i want : Nat) (acc : List UInt8) :
    (takeFrom body i want acc).bytes.length ≤ acc.length + want := by
  fun_induction takeFrom body i want acc with
  | case1 i acc => exact Nat.le_of_eq List.length_reverse
  | case2 i want acc _ reason h =>
    rw [List.length_reverse]
    exact Nat.le_add_right _ _
  | case3 i want acc _ h =>
    rw [List.length_reverse]
    exact Nat.le_add_right _ _
  | case4 i want acc _ b bs h ih =>
    have hacc : (((b :: bs).take want).reverseAux acc).length =
        min want (bs.length + 1) + acc.length := by
      rw [List.reverseAux_eq, List.length_append, List.length_reverse, List.length_take,
        List.length_cons]
    omega

theorem take_length_le (body : Body) (want : Nat) : (body.take want).bytes.length ≤ want := by
  have h := takeFrom_length_le body 0 want []
  rwa [List.length_nil, Nat.zero_add] at h

end Body

/-! ### the gate -/

namespace Gate

/-- A submission is refused as malformed, in these words, and nothing comes of it. -/
def Refuses (g : Gate) (d : Done Gate (Except Rejection String)) (reason : String) : Prop :=
  ∃ fault : BodyFault, fault.message = reason ∧
    d = { answer := .error (.malformed fault), state := g }

/-- Few bytes are taken of a body, and what comes of it is a matter of these bytes. -/
structure Bounded (g : Gate) (actor : String) (o : Outcomes) : Prop where
  /-- a gate that is off takes nothing -/
  off : g.manager.live = none → ∀ body, (g.ingestion body actor o).taken = []
  /-- and none takes more than one byte more than its cap, nor more than 64 bits count -/
  taken_le : ∀ body, (g.ingestion body actor o).taken.length ≤ g.cap + 1 ∧
    (g.ingestion body actor o).taken.length ≤ Word.most
  /-- those are the bytes at the front, be there an end behind them, -/
  taken_of_holds : g.manager.live ≠ none → ∀ (body : Body) (bytes : List UInt8), body.Holds bytes →
    (g.ingestion body actor o).taken = bytes.take (wanted g.cap)
  /-- a failure, -/
  taken_of_fails : g.manager.live ≠ none → ∀ (body : Body) (bytes : List UInt8) (reason : String),
    body.Fails bytes reason → (g.ingestion body actor o).taken = bytes.take (wanted g.cap)
  /-- or more than is wanted -/
  taken_of_brings : g.manager.live ≠ none → ∀ (body : Body) (bytes : List UInt8) (n : Nat),
    body.Brings bytes n → wanted g.cap ≤ bytes.length →
    (g.ingestion body actor o).taken = bytes.take (wanted g.cap)
  /-- nothing but what is taken, and the failure that ended it, is known to the gate -/
  known : ∀ body body' : Body, body.take (wanted g.cap) = body'.take (wanted g.cap) →
    g.ingestion body actor o = g.ingestion body' actor o
  /-- a body that ends is as good as all its bytes in one piece -/
  whole : ∀ (body : Body) (bytes : List UInt8), body.Holds bytes →
    g.ingest body actor o = g.ingest (.whole bytes) actor o
  /-- a failure before all that is wanted is taken is the reason of the refusal -/
  failed : ∀ (body : Body) (bytes : List UInt8) (reason : String), g.manager.live ≠ none →
    body.Fails bytes reason → bytes.length < wanted g.cap →
    g.Refuses (g.ingest body actor o) reason
  /-- whatever stands behind that is not seen, be it a failure or bytes without end -/
  unseen : ∀ (body : Body) (bytes : List UInt8) (n : Nat), body.Brings bytes n →
    wanted g.cap ≤ bytes.length →
    g.ingest body actor o = g.ingest (.whole (bytes.take (wanted g.cap))) actor o
  /-- more bytes than the cap are too many, whatever they are and whether or not they end -/
  tooLong : ∀ (body : Body) (bytes : List UInt8) (n : Nat), g.manager.live ≠ none →
    g.cap < Word.most → body.Brings bytes n → g.cap < bytes.length →
    g.Refuses (g.ingest body actor o) "http: request body too large"
  endless : ∀ body : Body, g.manager.live ≠ none → g.cap < Word.most → body.Endless →
    g.Refuses (g.ingest body actor o) "http: request body too large"

variable {g : Gate} {client : LiveClient} {body body' : Body} {bytes : List UInt8} {n : Nat}

theorem taken_of_off (h : g.manager.live = none) (body : Body) (actor : String) (o : Outcomes) :
    (g.ingestion body actor o).taken = [] := by
  rw [ingestion, Manager.isEnabled, h]
  rfl

theorem taken_of_live (h : g.manager.live ≠ none) (body : Body) (actor : String) (o : Outcomes) :
    (g.ingestion body actor o).taken = (body.take (wanted g.cap)).bytes := by
  obtain ⟨client, hlive⟩ := Option.ne_none_iff_exists'.mp h
  rw [ingestion, isEnabled_of_live hlive]
  rfl

theorem taken_length_le (g : Gate) (body : Body) (actor : String) (o : Outcomes) :
    (g.ingestion body actor o).taken.length ≤ wanted g.cap := by
  by_cases hl : g.manager.live = none
  · rw [taken_of_off hl]
    exact Nat.zero_le _
  · rw [taken_of_live hl]
    exact body.take_length_le _

/-- The gate knows of a body what it takes of it. -/
theorem ingestion_of_take_eq (h : body.take (wanted g.cap) = body'.take (wanted g.cap))
    (actor : String) (o : Outcomes) : g.ingestion body actor o = g.ingestion body' actor o := by
  unfold ingestion reading
  rw [h]

theorem ingest_of_take_eq (h : body.take (wanted g.cap) = body'.take (wanted g.cap))
    (actor : String) (o : Outcomes) : g.ingest body actor o = g.ingest body' actor o :=
  congrArg Ingestion.done (ingestion_of_take_eq h actor o)

theorem readRequest_of_fails {cap : Nat} {reason : String} (h : body.Fails bytes reason)
    (hlen : bytes.length < wanted cap) : readRequest cap body = .error (.unreadable reason) := by
  rw [readRequest, reading, h.take_eq hlen]
  rfl

theorem readRequest_of_brings {cap : Nat} (h : body.Brings bytes n) (hcap : cap < Word.most)
    (hlen : cap < bytes.length) : readRequest cap body = .error .tooLarge := by
  have hwanted : wanted cap ≤ bytes.length := Nat.le_trans (Nat.min_le_left _ _) hlen
  rw [readRequest, reading, h.take_of_le hwanted]
  exact if_pos (take_long (.inr hcap) hlen)

theorem refuses_of_fault {fault : BodyFault} (hl : g.manager.live ≠ none)
    (hread : readRequest g.cap body = .error fault) (actor : String) (o : Outcomes) :
    g.Refuses (g.ingest body actor o) fault.message := by
  obtain ⟨client, hlive⟩ := Option.ne_none_iff_exists'.mp hl
  exact ⟨fault, rfl, ingest_of_fault hlive hread actor o⟩

/-- **Whatever the cap and the body, the gate takes nothing while reporting is off and one byte more
than its cap at most, and all that comes of a body is a matter of these bytes**: not of the pieces
they come in, nor of a failure or an endless rest behind them. A failure before is the reason of the
refusal; a body of more bytes than the cap is too long even if it does not end. -/
theorem ingest_bounded (g : Gate) (actor : String) (o : Outcomes) : Bounded g actor o where
  off h body := taken_of_off h body actor o
  taken_le body := by
    have hlen := taken_length_le g body actor o
    exact ⟨Nat.le_trans hlen (Nat.min_le_left _ _), Nat.le_trans hlen (Nat.min_le_right _ _)⟩
  taken_of_holds hl body bytes h := by rw [taken_of_live hl, h.take_eq]
  taken_of_fails hl body bytes reason h := by
    rw [taken_of_live hl]
    by_cases hlen : bytes.length < wanted g.cap
    · rw [h.take_eq hlen, List.take_of_length_le (Nat.le_of_lt hlen)]
    · obtain ⟨n, hbrings, _⟩ := h
      rw [hbrings.take_of_le (Nat.not_lt.mp hlen)]
  taken_of_brings hl body bytes n h hlen := by rw [taken_of_live hl, h.take_of_le hlen]
  known _ _ h := ingestion_of_take_eq h actor o
  whole body bytes h := by
    refine ingest_of_take_eq ?_ actor o
    rw [h.take_eq, (Body.holds_whole bytes).take_eq]
  failed body bytes reason hl h hlen := refuses_of_fault hl (readRequest_of_fails h hlen) actor o
  unseen body bytes n h hlen := by
    refine ingest_of_take_eq ?_ actor o
    rw [h.take_of_le hlen, (Body.holds_whole _).take_eq, List.take_take, Nat.min_self]
  tooLong body bytes n hl hcap h hlen :=
    refuses_of_fault hl (readRequest_of_brings h hcap hlen) actor o
  endless body hl hcap h := by
    obtain ⟨bytes, n, hlen, hbrings⟩ := h (g.cap + 1)
    exact refuses_of_fault hl (readRequest_of_brings hbrings hcap hlen) actor o

/-- A request in front of blanks without end is not looked for. -/
example : ((liveGate 30).handle (fun i => .bytes (if i = 0 then raiseHand else [32])) "u1"
    .good).answer = .refusal "http: request body too large" := by
  decide +kernel

end Gate

end TelemetryGate
