import TelemetryGate.Failure

/-!
# The queue of a client

Callers offer payloads, one worker takes them in order and has at most one in hand.

* `Queue`          what waits, what the worker has in hand, whether more may come;
* `Queue.offer`    a payload of a caller;
* `Queue.take`     the worker's next payload;
* `Queue.finish`   the worker is done with what it has in hand;
* `Queue.close`    nothing more may come, what waits is still taken.
-/

namespace TelemetryGate

/-- Payloads between callers and one worker. -/
structure Queue (α : Type) where
  capacity : Nat
  waiting : List α := []
  inHand : Option α := none
  isOpen : Bool := true

namespace Queue

variable {α : Type}

/-- How many payloads may wait: at least one. -/
def room (q : Queue α) : Nat := max 1 q.capacity

/-- A payload of a caller, at the end of those that wait. -/
def offer (payload : α) (q : Queue α) : Except ReportError (Queue α) :=
  if !q.isOpen then .error .closed
  else if q.room ≤ q.waiting.length then .error .queueFull
  else .ok { q with waiting := q.waiting ++ [payload] }

/-- The worker takes the payload that has waited longest, if its hands are free. -/
def take (q : Queue α) : Queue α :=
  match q.inHand, q.waiting with
  | none, payload :: rest => { q with waiting := rest, inHand := some payload }
  | _, _ => q

def finish (q : Queue α) : Queue α := { q with inHand := none }

/-- Nothing more may come. -/
def close (q : Queue α) : Queue α := { q with isOpen := false }

/-- The payloads that were offered and are not done with, in order. -/
def pending (q : Queue α) : List α := q.inHand.toList ++ q.waiting

theorem pending_take (q : Queue α) : q.take.pending = q.pending := by
  unfold take
  split <;> simp_all [pending]

theorem pending_close (q : Queue α) : q.close.pending = q.pending := rfl

theorem pending_offer {q r : Queue α} {payload : α} (h : q.offer payload = .ok r) :
    r.pending = q.pending ++ [payload] := by
  unfold offer at h
  split at h
  · cases h
  · split at h
    · cases h
    · cases h
      simp [pending]

end Queue

end TelemetryGate
