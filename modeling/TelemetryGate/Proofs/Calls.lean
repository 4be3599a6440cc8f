import TelemetryGate.Proofs.Manager

/-!
# What clients are asked

A list of calls, seen from the clients.

* `Calls.made`, `Calls.closed`   the clients that were made, and those that were closed, in order;
* `Calls.handed`                 the events that were handed to clients, in order;
* `Calls.latest`                 the client that was made last;
* `ClientCall.blind`             a call without how it turned out.
-/

namespace TelemetryGate

/-- An event in the hands of a client. -/
structure Handed where
  client : Nat
  event : String
  props : Properties

namespace ClientCall

def made : ClientCall → List Nat
  | create n _ => [n]
  | _ => []

def closed : ClientCall → List Nat
  | close n _ => [n]
  | _ => []

def handed : ClientCall → List Handed
  | track n event props _ => [⟨n, event, props⟩]
  | _ => []

/-- The call without how it turned out. -/
def blind : ClientCall → ClientCall
  | create n config => create n config
  | track n event props _ => track n event props none
  | close n _ => close n none

theorem made_blind (c : ClientCall) : c.blind.made = c.made := by cases c <;> rfl

theorem closed_blind (c : ClientCall) : c.blind.closed = c.closed := by cases c <;> rfl

theorem handed_blind (c : ClientCall) : c.blind.handed = c.handed := by cases c <;> rfl

end ClientCall

namespace Calls

variable {a b : List ClientCall}

def made (calls : List ClientCall) : List Nat := calls.flatMap ClientCall.made

def closed (calls : List ClientCall) : List Nat := calls.flatMap ClientCall.closed

def handed (calls : List ClientCall) : List Handed := calls.flatMap ClientCall.handed

/-- The client that was made last; clients are numbered from one. -/
def latest (calls : List ClientCall) : Nat := (made calls).getLastD 0

@[simp] theorem made_append : made (a ++ b) = made a ++ made b := List.flatMap_append

@[simp] theorem closed_append : closed (a ++ b) = closed a ++ closed b := List.flatMap_append

@[simp] theorem handed_append : handed (a ++ b) = handed a ++ handed b := List.flatMap_append

/-- What is the same call for call but for something is the same for what does not tell. -/
theorem flatMap_of_map {α : Type} {f : ClientCall → List α} {φ : ClientCall → ClientCall}
    (hf : ∀ c, f (φ c) = f c) (h : a.map φ = b.map φ) : a.flatMap f = b.flatMap f := by
  have hmap : ∀ l : List ClientCall, (l.map φ).flatMap f = l.flatMap f := by
    intro l
    rw [List.flatMap_map]
    exact congrArg (List.flatMap · l) (funext hf)
  rw [← hmap a, ← hmap b, h]

end Calls

end TelemetryGate
